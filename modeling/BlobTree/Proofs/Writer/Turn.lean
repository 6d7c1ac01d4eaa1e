import BlobTree.Proofs.Writer.Calls

/-!
# BlobTree.Proofs.Writer.Turn

The calls of a run, one by one. A call does one of four things (`Turn.Came`): the state of the
session does not allow it, a chunk is refused, it goes well, or it cancels the session. Whatever
is to be shown of runs follows from these four, so that no other module looks at how a call works.

* `history`: the calls of a run, each on what the one before has left behind.
* `came_of_append`: the calls that reach the store by appending.
* `turn_came`: every call.
-/

namespace BlobTree

def Call.isAppend : Call → Bool
  | .appendChunk _ _ => true
  | _ => false

def Call.isDelete : Call → Bool
  | .delete _ => true
  | _ => false

namespace Writer

variable {σ : Type}

/-- How far a session has come, and how it ended. -/
abbrev Phase := State × Outcome

def phase (w : Writer) : Phase :=
  (w.state, w.outcome)

def phases : List Phase :=
  [(.open, .pending), (.committed, .committed), (.cancelled, .cancelled), (.closed, .committed),
    (.closed, .cancelled), (.closed, .uncommitted)]

def Request.operation : Request → Operation
  | .write _ => .write
  | .commit => .commit
  | .cancel => .cancel
  | .close => .close

/-- The phase after a call that goes well. -/
def Request.leads : Request → Phase → Phase
  | .write _, p => p
  | .commit, _ => (.committed, .committed)
  | .cancel, _ => (.cancelled, .cancelled)
  | .close, (.open, _) => (.closed, .uncommitted)
  | .close, (_, outcome) => (.closed, outcome)

theorem leads_close {p : Phase} (hover : p.1 ≠ .open) : Request.close.leads p = (.closed, p.2) := by
  obtain ⟨state, outcome⟩ := p
  cases state with
  | «open» => exact absurd rfl hover
  | _ => rfl

structure Turn (σ : Type) where
  request : Request
  before : Writer × World (Traced σ)
  result : Except Failure Nat
  after : Writer × World (Traced σ)

def Turn.calls (t : Turn σ) : List (Event σ) :=
  t.before.2.store.since t.after.2.store

def turn (b : Backend σ) (q : Request) (w : Writer) (world : World (Traced σ)) : Turn σ :=
  ⟨q, (w, world), (perform b.traced q w world).1, (perform b.traced q w world).2⟩

/-- Calls one after another, each on what the one before has left behind. -/
def history (b : Backend σ) : List Request → Writer → World (Traced σ) → List (Turn σ)
  | [], _, _ => []
  | q :: rest, w, world =>
    let t := turn b q w world
    t :: history b rest t.after.1 t.after.2

inductive Turn.Came (t : Turn σ) : Prop where
  | illegal (hillegal : t.before.1.state ∉ t.request.operation.allowed)
      (hresult : t.result = .error (.invalidState t.request.operation t.before.1.state))
      (hcalls : t.calls = []) (hafter : t.after = t.before)
  | refused (e : StoreError) (hopen : t.before.1.state = .open) (hrequest : t.request ≠ .cancel)
      (hcalls : ∀ c ∈ t.calls, c.call.isAppend) (hrefusal : t.calls.findSome? (·.error?) = some e)
      (hresult : t.result = .error (.store e)) (hphase : t.after.1.phase = t.before.1.phase)
  | done (n : Nat) (hlegal : t.before.1.state ∈ t.request.operation.allowed)
      (hrequest : t.request ≠ .cancel)
      (hcalls : ∀ c ∈ t.calls, c.call.isAppend ∧ c.error? = none)
      (hquiet : t.before.1.state ≠ .open → t.calls = []) (hresult : t.result = .ok n)
      (hphase : t.after.1.phase = t.request.leads t.before.1.phase)
  | cancelled (c : Event σ) (hopen : t.before.1.state = .open) (hrequest : t.request = .cancel)
      (hcalls : t.calls = [c]) (hdelete : c.call = .delete t.before.1.key)
      (hresult : (∃ n, t.result = .ok n) ∨ ∃ e, c.error? = some e ∧
        t.result = .error (Failure.atPath t.before.1.path (.store e)))
      (hphase : t.after.1.phase = (.cancelled, .cancelled))

theorem allowed_of_open {q : Request} {s : State} (hopen : s = .open) :
    s ∈ q.operation.allowed := by
  rw [hopen]
  cases q <;> simp [Request.operation, Operation.allowed]

section Step

variable {b : Backend σ} {w : Writer} {world : World (Traced σ)} {q : Request}

theorem calls_turn {calls : List (Event σ)}
    (h : (perform b.traced q w world).2.2.store.events = world.store.events ++ calls) :
    (turn b q w world).calls = calls :=
  Traced.since_of_append h

theorem came_illegal (hillegal : w.state ∉ q.operation.allowed)
    (hperform : perform b.traced q w world =
      (.error (.invalidState q.operation w.state), w, world)) : (turn b q w world).Came := by
  refine .illegal hillegal ?_ (calls_turn ?_) ?_
  · simp only [turn, hperform]
  · rw [hperform, List.append_nil]
  · simp only [turn, hperform]

theorem isAppend_of_prefix {calls : List (Event σ)} {key : Name} {ps : List Bytes}
    (h : calls.map (·.call) <+: ps.map (.appendChunk key)) : ∀ c ∈ calls, c.call.isAppend := by
  intro c hc
  have hmem : c.call ∈ ps.map (.appendChunk key) := h.subset (List.mem_map_of_mem hc)
  obtain ⟨piece, -, heq⟩ := List.mem_map.mp hmem
  rw [← heq]
  rfl

/-- A call to an open session that appends a block and, once that has gone well, ends the session
or leaves it open. -/
theorem came_of_append (hopen : w.state = .open) (hrequest : q ≠ .cancel) (w₁ : Writer)
    (hphase : w₁.phase = w.phase) (block : Bytes)
    (hok : ∀ world', append b.traced w₁ block world = (.ok (), w₁, world') →
      ∃ n w' world'', perform b.traced q w world = (.ok n, w', world'') ∧
        w'.phase = q.leads w.phase ∧ world''.store = world'.store)
    (herror : ∀ f w' world', append b.traced w₁ block world = (.error f, w', world') →
      perform b.traced q w world = (.error f, w', world')) : (turn b q w world).Came := by
  obtain ⟨calls, hevents, hprefix, hend⟩ := append_traced b w₁ block world
  have happends := isAppend_of_prefix hprefix
  generalize happend : append b.traced w₁ block world = ended at hevents hend
  obtain ⟨result, w₂, world'⟩ := ended
  rcases hend with ⟨hnone, -, rfl, rfl⟩ | ⟨e, size, hrefusal, rfl, rfl⟩
  · obtain ⟨n, w', world'', hperform, hleads, hstore⟩ := hok world' happend
    have hcalls : (turn b q w world).calls = calls := calls_turn (by rw [hperform, hstore, hevents])
    refine .done n (allowed_of_open hopen) hrequest (fun c hc => ?_)
      (fun hclosed => absurd hopen hclosed) ?_ ?_
    · rw [hcalls] at hc
      exact ⟨happends c hc, List.findSome?_eq_none_iff.mp hnone c hc⟩
    · simp only [turn, hperform]
    · simpa only [turn, hperform] using hleads
  · have hperform := herror _ _ _ happend
    have hcalls : (turn b q w world).calls = calls := calls_turn (by rw [hperform, hevents])
    refine .refused e hopen hrequest (by rwa [hcalls]) (by rwa [hcalls]) ?_ ?_
    · simp only [turn, hperform]
    · simp only [turn, hperform]
      exact hphase

theorem write_came (data : Bytes) : (turn b (.write data) w world).Came := by
  by_cases hopen : w.state = .open
  · have hlegal : w.state ∈ Operation.write.allowed := by simp [hopen, Operation.allowed]
    refine came_of_append hopen (by simp) (w.holding data) rfl (w.full data)
      (fun world' happend => ?_) fun f w' world' happend => ?_
    · refine ⟨data.length, w.holding data, world', ?_, rfl, rfl⟩
      rw [perform, write_eq_append hopen, happend]
      rfl
    · rw [perform, write_eq_append hopen, happend]
      rfl
  · have hillegal : w.state ∉ Operation.write.allowed := by simpa [Operation.allowed] using hopen
    refine came_illegal hillegal ?_
    rw [perform, write, allowing_refused hillegal]
    rfl

theorem commit_came : (turn b .commit w world).Came := by
  by_cases hopen : w.state = .open
  · have hlegal : w.state ∈ Operation.commit.allowed := by simp [hopen, Operation.allowed]
    refine came_of_append hopen (by simp) { w with buffer := [] } rfl w.buffer
      (fun world' happend => ?_) fun f w' world' happend => ?_
    · let ended : Writer := { w with buffer := [], state := .committed, outcome := .committed }
      have hperform : perform b.traced .commit w world =
          (.ok 0, ended, ended.note [("size", .number w.size)] "writer committed" world') := by
        rw [perform, commit, allowing_legal hlegal, flush_eq_append, happend]
        rfl
      exact ⟨0, ended, _, hperform, rfl, note_store ..⟩
    · rw [perform, commit, allowing_legal hlegal, flush_eq_append, happend]
      rfl
  · have hillegal : w.state ∉ Operation.commit.allowed := by simpa [Operation.allowed] using hopen
    refine came_illegal hillegal ?_
    rw [perform, commit, allowing_refused hillegal]
    rfl

theorem cancel_came : (turn b .cancel w world).Came := by
  by_cases hopen : w.state = .open
  · have hlegal : w.state ∈ Operation.cancel.allowed := by simp [hopen, Operation.allowed]
    cases hanswer : b.answer world.store.store (.delete w.key) with
    | mk reply store =>
      let ended : Writer := { w with state := .cancelled, outcome := .cancelled, buffer := [] }
      let event : Event σ := ⟨world.store.store, .delete w.key, reply⟩
      have hperform : perform b.traced .cancel w world =
          ((reply.mapError fun e => Failure.atPath w.path (.store e)).map fun _ => 0, ended,
            { ended.note [] "writer cancelled" world with
              store := ⟨store, world.store.events ++ [event]⟩ }) := by
        rw [perform, cancel, allowing_legal hlegal]
        simp only [Result.none, note_store, Backend.traced_answer, hanswer]
        rfl
      have hcalls : (turn b .cancel w world).calls = [event] := calls_turn (by rw [hperform])
      refine .cancelled event hopen rfl hcalls rfl ?_ ?_
      · simp only [turn, hperform, event, Event.error?]
        cases reply with
        | ok _ => exact .inl ⟨0, rfl⟩
        | error e => exact .inr ⟨e, rfl, rfl⟩
      · simp only [turn, hperform]
        rfl
  · have hillegal : w.state ∉ Operation.cancel.allowed := by simpa [Operation.allowed] using hopen
    refine came_illegal hillegal ?_
    rw [perform, cancel, allowing_refused hillegal]
    rfl

theorem close_came : (turn b .close w world).Came := by
  by_cases hlegal : w.state ∈ Operation.close.allowed
  · by_cases hopen : w.state = .open
    · refine came_of_append hopen (by simp) { w with buffer := [] } rfl w.buffer
        (fun world' happend => ?_) fun f w' world' happend => ?_
      · let ended : Writer := { w with buffer := [], state := .closed, outcome := .uncommitted }
        refine ⟨0, ended, world', ?_, ?_, rfl⟩
        · rw [perform, close, allowing_legal hlegal, if_pos hopen, flush_eq_append, happend]
          rfl
        · simp [ended, phase, Request.leads, hopen]
      · rw [perform, close, allowing_legal hlegal, if_pos hopen, flush_eq_append, happend]
        rfl
    · have hperform : perform b.traced .close w world =
          (.ok 0, { w with state := .closed }, world) := by
        rw [perform, close, allowing_legal hlegal, if_neg hopen]
        rfl
      have hcalls : (turn b .close w world).calls = [] :=
        calls_turn (by rw [hperform, List.append_nil])
      refine .done 0 hlegal (by simp [turn]) (by simp [hcalls]) (fun _ => hcalls) ?_ ?_
      · simp only [turn, hperform]
      · simp only [turn, hperform]
        exact (leads_close (p := w.phase) hopen).symm
  · refine came_illegal hlegal ?_
    rw [perform, close, allowing_refused hlegal]
    rfl

theorem turn_came (b : Backend σ) (q : Request) (w : Writer) (world : World (Traced σ)) :
    (turn b q w world).Came := by
  cases q with
  | write data => exact write_came data
  | commit => exact commit_came
  | cancel => exact cancel_came
  | close => exact close_came

end Step

end Writer
end BlobTree
