import BlobTree.Writer.Request

/-!
# BlobTree.Proofs.Writer.Sends

What a call on a session asks of the store. It sends a row of chunks, perhaps none, and the result
and the session after it depend on the store through the report alone of how far the chunks came;
only a cancel asks for something else, to delete the object.

* `Sends`: a call of the first kind; `append_sends`, `flush_sends`: the two that send anything.
* `perform_cases`: every call is one of the two.
-/

namespace BlobTree
namespace Writer

variable {σ α β : Type}

/-- A call that sends chunks to the object of a key and ends as their report says, in a session on
that object; a chunk that the store refuses is the failure of the call. -/
def Sends (b : Backend σ) (key : Name) (act : World σ → Result σ α) : Prop :=
  ∃ (ps : List Bytes) (ending : Append.Report → Except Failure α × Writer),
    (∀ s e, (Append.send b key ps s).1.failure = some e →
      (ending (Append.send b key ps s).1).1 = .error (.store e)) ∧
    (∀ r, (ending r).2.key = key) ∧
    ∀ world, ∃ journal, act world =
      ((ending (Append.send b key ps world.store).1).1,
        (ending (Append.send b key ps world.store).1).2,
        { world with store := (Append.send b key ps world.store).2, journal })

variable {b : Backend σ} {key : Name}

theorem exists_note (w : Writer) (fields : Fields) (message : String) (world : World σ) :
    ∃ journal, w.note fields message world = { world with journal } := by
  rw [note]
  split
  · exact ⟨world.journal, rfl⟩
  · exact ⟨_, rfl⟩

theorem sends_nothing {w : Writer} (hkey : w.key = key) (r : Except Failure α) :
    Sends b key fun world => (r, w, world) := by
  refine ⟨[], fun _ => (r, w), fun s e he => ?_, fun _ => hkey, fun world => ?_⟩
  · rw [Append.send] at he
    cases he
  · exact ⟨world.journal, rfl⟩

/-- How an append ends, from the report of its chunks. -/
def afterAppend (w : Writer) (data : Bytes) (report : Append.Report) :
    Except Failure Unit × Writer :=
  match report.failure with
  | none => (.ok (), w)
  | some e =>
    let lost := data.length - report.appended + w.buffer.length
    (.error (.store e), { w with size := w.size.shift (-lost), buffer := [] })

theorem append_sends (w : Writer) (data : Bytes) : Sends b w.key (append b w data) := by
  refine ⟨Append.pieces w.chunk data, afterAppend w data, fun s e he => ?_, fun report => ?_,
    fun world => ?_⟩
  · simp [afterAppend, he]
  · rw [afterAppend]
    split <;> rfl
  · rw [append, Append.block]
    obtain ⟨report, store⟩ := Append.send b w.key (Append.pieces w.chunk data) world.store
    cases hfailure : report.failure with
    | none =>
      simp only [afterAppend, hfailure]
      exact ⟨world.journal, rfl⟩
    | some e =>
      simp only [afterAppend, hfailure]
      obtain ⟨journal, hnote⟩ := exists_note _ _ _ _
      exact ⟨journal, by rw [hnote]⟩

theorem flush_sends (w : Writer) : Sends b w.key (flush b w) := by
  by_cases hempty : w.buffer.isEmpty
  · have hflush : flush b w = fun world => (.ok (), w, world) :=
      funext fun world => if_pos hempty
    rw [hflush]
    exact sends_nothing rfl _
  · have hflush : flush b w = append b { w with buffer := [] } w.buffer :=
      funext fun world => if_neg hempty
    rw [hflush]
    exact append_sends { w with buffer := [] } w.buffer

/-- A call that goes on after another one, but not with the store. -/
theorem Sends.followed {act : World σ → Result σ α} {act' : World σ → Result σ β}
    (h : Sends b key act) (g : Except Failure α × Writer → Except Failure β × Writer)
    (herror : ∀ f w, (g (.error f, w)).1 = .error f) (hkey : ∀ r, (g r).2.key = r.2.key)
    (hact : ∀ world, ∃ journal, act' world =
      ((g ((act world).1, (act world).2.1)).1, (g ((act world).1, (act world).2.1)).2,
        { (act world).2.2 with journal })) : Sends b key act' := by
  obtain ⟨ps, ending, hreport, hsame, hrun⟩ := h
  refine ⟨ps, fun report => g (ending report), fun s e he => ?_, fun r => ?_, fun world => ?_⟩
  · have hending : ending (Append.send b key ps s).1 =
        (.error (.store e), (ending (Append.send b key ps s).1).2) :=
      Prod.ext (hreport s e he) rfl
    show (g (ending (Append.send b key ps s).1)).1 = _
    rw [hending]
    exact herror _ _
  · rw [hkey, hsame]
  · obtain ⟨journal', heq⟩ := hrun world
    obtain ⟨journal, hafter⟩ := hact world
    rw [heq] at hafter
    exact ⟨journal, hafter⟩

theorem sends_of_allowing {op : Operation} {w : Writer} {act : Writer → World σ → Result σ α}
    (h : Sends b w.key (act w)) : Sends b w.key fun world => allowing op w world act := by
  by_cases hallowed : w.state ∈ op.allowed
  · have hact : (fun world => allowing op w world act) = act w :=
      funext fun world => allowing_legal hallowed world act
    rw [hact]
    exact h
  · have hact : (fun world => allowing op w world act) =
        fun world => (.error (.invalidState op w.state), w, world) :=
      funext fun world => allowing_refused hallowed world act
    rw [hact]
    exact sends_nothing rfl _

theorem write_sends (w : Writer) (data : Bytes) : Sends b w.key (write b w data) := by
  let held := w.buffer ++ data
  let full := held.length - held.length % w.chunk
  let taken : Writer := { w with buffer := held.drop full, size := w.size.shift data.length }
  refine sends_of_allowing ?_
  show Sends b w.key fun world =>
    if full = 0 then (.ok data.length, taken, world)
    else ((append b taken (held.take full) world).1.map fun _ => data.length,
      (append b taken (held.take full) world).2)
  by_cases hfull : full = 0
  · simp only [if_pos hfull]
    exact sends_nothing (w := taken) rfl _
  · simp only [if_neg hfull]
    exact (append_sends taken (held.take full)).followed
      (fun r => (r.1.map fun _ => data.length, r.2)) (fun _ _ => rfl) (fun _ => rfl)
      fun _ => ⟨_, rfl⟩

/-- What becomes of a session once its call has gone well. -/
def ifDone (g : Writer → Writer) (r : Except Failure Unit × Writer) : Except Failure Unit × Writer :=
  match r.1 with
  | .ok _ => (.ok (), g r.2)
  | .error f => (.error f, r.2)

/-- A call that empties the buffer and, once that has gone well, changes the session. -/
theorem flush_followed_sends {w : Writer} {act : World σ → Result σ Unit} (g : Writer → Writer)
    (hkey : ∀ w', (g w').key = w'.key)
    (hok : ∀ w' world world', flush b w world = (.ok (), w', world') →
      ∃ journal, act world = (.ok (), g w', { world' with journal }))
    (herror : ∀ f w' world world', flush b w world = (.error f, w', world') →
      act world = (.error f, w', world')) : Sends b w.key act := by
  refine (flush_sends w).followed (ifDone g) (fun _ _ => rfl) (fun r => ?_) fun world => ?_
  · obtain ⟨f | -, w'⟩ := r
    · rfl
    · exact hkey w'
  · cases hflush : flush b w world with
    | mk r rest =>
      cases r with
      | ok _ => exact hok _ _ _ hflush
      | error f => exact ⟨_, herror _ _ _ _ hflush⟩

theorem commit_sends (w : Writer) : Sends b w.key (commit b w) := by
  refine sends_of_allowing (flush_followed_sends
    (fun w' => { w' with state := .committed, outcome := .committed }) (fun _ => rfl) ?_ ?_)
  · intro w' world world' hflush
    obtain ⟨journal, hnote⟩ := exists_note
      { w' with state := .committed, outcome := .committed } [("size", .number w'.size)]
      "writer committed" world'
    exact ⟨journal, by simp only [hflush, hnote]⟩
  · intro f w' world world' hflush
    rw [hflush]

theorem close_sends (w : Writer) : Sends b w.key (close b w) := by
  refine sends_of_allowing ?_
  by_cases hopen : w.state = .open
  · simp only [if_pos hopen]
    refine flush_followed_sends (fun w' => { w' with state := .closed, outcome := .uncommitted })
      (fun _ => rfl) ?_ ?_
    · intro w' world world' hflush
      rw [hflush]
      exact ⟨_, rfl⟩
    · intro f w' world world' hflush
      rw [hflush]
  · simp only [if_neg hopen]
    exact sends_nothing (w := { w with state := .closed }) rfl _

theorem Sends.none {act : World σ → Result σ Unit} (h : Sends b key act) :
    Sends b key fun world => Result.none (act world) :=
  h.followed (fun r => (r.1.map fun _ => 0, r.2)) (fun _ _ => rfl) (fun _ => rfl)
    fun _ => ⟨_, rfl⟩

/-- Every call sends chunks, or deletes the object and says what came of that. -/
theorem perform_cases (b : Backend σ) (q : Request) (w : Writer) :
    Sends b w.key (perform b q w) ∨
    ∃ w', w'.key = w.key ∧ ∀ world, ∃ journal, perform b q w world =
      (((b.answer world.store (.delete w.key)).1.mapError fun e =>
          Failure.atPath w.path (.store e)).map fun _ => 0, w',
        { world with store := (b.answer world.store (.delete w.key)).2, journal }) := by
  cases q with
  | write data => exact .inl (write_sends w data)
  | commit => exact .inl (commit_sends w).none
  | close => exact .inl (close_sends w).none
  | cancel =>
    by_cases hallowed : w.state ∈ Operation.allowed .cancel
    · refine .inr ⟨{ w with state := .cancelled, outcome := .cancelled, buffer := [] }, rfl,
        fun world => ?_⟩
      obtain ⟨journal, hnote⟩ := exists_note
        { w with state := .cancelled, outcome := .cancelled, buffer := [] } []
        "writer cancelled" world
      refine ⟨journal, ?_⟩
      rw [perform, cancel, allowing_legal hallowed]
      simp only [hnote]
      rfl
    · refine .inl ?_
      have hcancel : perform b .cancel w =
          fun world => (.error (.invalidState .cancel w.state), w, world) := by
        funext world
        rw [perform, cancel, allowing_refused hallowed]
        rfl
      rw [hcancel]
      exact sends_nothing rfl _

theorem perform_key (b : Backend σ) (q : Request) (w : Writer) (world : World σ) :
    (w.perform b q world).2.1.key = w.key := by
  rcases perform_cases b q w with ⟨_, ending, -, hkey, hrun⟩ | ⟨w', hkey, hrun⟩
  · obtain ⟨journal, h⟩ := hrun world
    rw [h]
    exact hkey _
  · obtain ⟨journal, h⟩ := hrun world
    rw [h]
    exact hkey

theorem perform_measures_nothing (b : Backend σ) (q : Request) (w : Writer) (world : World σ) :
    (w.perform b q world).2.2.counters = world.counters ∧
      (w.perform b q world).2.2.host = world.host := by
  rcases perform_cases b q w with ⟨_, ending, -, -, hrun⟩ | ⟨w', -, hrun⟩
  · obtain ⟨journal, h⟩ := hrun world
    rw [h]
    exact ⟨rfl, rfl⟩
  · obtain ⟨journal, h⟩ := hrun world
    rw [h]
    exact ⟨rfl, rfl⟩

end Writer
end BlobTree
