import BlobTree.Store.Traced
import BlobTree.Writer.Request

/-!
# BlobTree.Proofs.Writer.Calls

The calls that a session makes, on a store that keeps a record of them. Whatever reaches the store
is sent by an append: a write appends the full chunks and a flush the whole buffer, and appending
nothing asks for nothing.

* `Traced.since`, `Traced.Accepts`: what has been asked between two states, and that none of it has
  been refused.
* `send_traced`: pieces are appended in order, up to the first one that is refused.
* `write_eq_append`, `flush_eq_append`: what is appended.
* `append_traced`: the calls of an append and the session after it.
-/

namespace BlobTree

variable {σ : Type}

def Event.error? (e : Event σ) : Option StoreError :=
  match e.reply with
  | .ok _ => none
  | .error err => some err

namespace Traced

variable {s s' s'' : Traced σ} {calls : List (Event σ)}

/-- What has been asked of the store between two states. -/
def since (s s' : Traced σ) : List (Event σ) :=
  s'.events.drop s.events.length

/-- Nothing has been refused between two states. -/
def Accepts (s s' : Traced σ) : Prop :=
  ∀ e ∈ s.since s', e.error? = none

instance (s s' : Traced σ) : Decidable (s.Accepts s') :=
  inferInstanceAs (Decidable (∀ e ∈ s.since s', e.error? = none))

theorem since_of_append (h : s'.events = s.events ++ calls) : s.since s' = calls := by
  rw [since, h, List.drop_left]

theorem since_self (s : Traced σ) : s.since s = [] :=
  List.drop_length

theorem since_trans (h : s.events <+: s'.events) (h' : s'.events <+: s''.events) :
    s.since s'' = s.since s' ++ s'.since s'' := by
  obtain ⟨calls, hcalls⟩ := h
  obtain ⟨calls', hcalls'⟩ := h'
  rw [since_of_append hcalls.symm, since_of_append hcalls'.symm]
  refine since_of_append ?_
  rw [← hcalls', ← hcalls, List.append_assoc]

theorem accepts_trans (h : s.events <+: s'.events) (h' : s'.events <+: s''.events) :
    s.Accepts s'' ↔ s.Accepts s' ∧ s'.Accepts s'' := by
  simp only [Accepts, since_trans h h', List.forall_mem_append]

end Traced

theorem Append.send_traced (b : Backend σ) (key : Name) (ps : List Bytes) (s : Traced σ) :
    ∃ calls, (send b.traced key ps s).2.events = s.events ++ calls ∧
      calls.map (·.call) <+: ps.map (.appendChunk key) ∧
      (send b.traced key ps s).1.failure = calls.findSome? (·.error?) ∧
      ((send b.traced key ps s).1.failure = none →
        calls.map (·.call) = ps.map (.appendChunk key)) := by
  induction ps generalizing s with
  | nil => exact ⟨[], by simp [send]⟩
  | cons piece more ih =>
    let event : Event σ :=
      ⟨s.store, .appendChunk key piece, (b.answer s.store (.appendChunk key piece)).1⟩
    rw [send, Backend.traced_answer]
    cases hreply : (b.answer s.store (.appendChunk key piece)).1 with
    | error e =>
      have herror : event.error? = some e := by simp [event, Event.error?, hreply]
      refine ⟨[event], by simp [event, hreply], by simp [event], ?_, by simp⟩
      rw [List.findSome?_cons, herror]
    | ok _ =>
      have herror : event.error? = none := by simp [event, Event.error?, hreply]
      obtain ⟨calls, hevents, hprefix, hfailure, hall⟩ :=
        ih ⟨(b.answer s.store (.appendChunk key piece)).2, s.events ++ [event]⟩
      simp only [event, hreply] at hevents hprefix hfailure hall
      refine ⟨event :: calls, ?_, ?_, ?_, fun hnone => ?_⟩
      · simp only [hevents, event, hreply, List.append_assoc, List.singleton_append]
      · simpa [event] using hprefix
      · rw [List.findSome?_cons, herror]
        exact hfailure
      · simpa [event] using hall hnone

namespace Writer

variable {b : Backend σ}

theorem append_nil (w : Writer) (world : World σ) : append b w [] world = (.ok (), w, world) :=
  rfl

/-- The bytes of the full chunks, once more bytes have come in. -/
def full (w : Writer) (data : Bytes) : Bytes :=
  let held := w.buffer ++ data
  held.take (held.length - held.length % w.chunk)

/-- The session that has taken more bytes in and has given its full chunks away. -/
def holding (w : Writer) (data : Bytes) : Writer :=
  let held := w.buffer ++ data
  { w with
    buffer := held.drop (held.length - held.length % w.chunk)
    size := w.size.shift data.length }

theorem write_eq_append {w : Writer} (h : w.state = .open) (data : Bytes) (world : World σ) :
    write b w data world =
      ((append b (w.holding data) (w.full data) world).1.map fun _ => data.length,
        (append b (w.holding data) (w.full data) world).2) := by
  have hlegal : w.state ∈ Operation.write.allowed := by simp [h, Operation.allowed]
  rw [write, allowing_legal hlegal]
  by_cases hfull : (w.buffer ++ data).length - (w.buffer ++ data).length % w.chunk = 0
  · have hnone : w.full data = [] := by simp only [full, hfull, List.take_zero]
    rw [hnone, append_nil, if_pos hfull]
    rfl
  · rw [if_neg hfull]
    rfl

theorem flush_eq_append (w : Writer) (world : World σ) :
    flush b w world = append b { w with buffer := [] } w.buffer world := by
  obtain ⟨path, key, chunk, pos, state, outcome, size, buffer, logger⟩ := w
  cases buffer with
  | nil => rfl
  | cons c rest => rfl

/-- Either every piece has been accepted and the session is as it was, or the call ends with the
refusal of one and the session has no buffer left. -/
theorem append_traced (b : Backend σ) (w : Writer) (data : Bytes) (world : World (Traced σ)) :
    ∃ calls, (append b.traced w data world).2.2.store.events = world.store.events ++ calls ∧
      calls.map (·.call) <+: (Append.pieces w.chunk data).map (.appendChunk w.key) ∧
      ((calls.findSome? (·.error?) = none ∧
          calls.map (·.call) = (Append.pieces w.chunk data).map (.appendChunk w.key) ∧
          (append b.traced w data world).1 = .ok () ∧ (append b.traced w data world).2.1 = w) ∨
        ∃ e size, calls.findSome? (·.error?) = some e ∧
          (append b.traced w data world).1 = .error (.store e) ∧
          (append b.traced w data world).2.1 = { w with size, buffer := [] }) := by
  obtain ⟨calls, hevents, hprefix, hfailure, hall⟩ :=
    Append.send_traced b w.key (Append.pieces w.chunk data) world.store
  simp only [append, Append.block]
  generalize Append.send b.traced w.key (Append.pieces w.chunk data) world.store = sent at *
  obtain ⟨report, store⟩ := sent
  cases hreport : report.failure with
  | none => exact ⟨calls, hevents, hprefix, .inl ⟨hfailure ▸ hreport, hall hreport, rfl, rfl⟩⟩
  | some e =>
    refine ⟨calls, ?_, hprefix, .inr ⟨e, _, hfailure ▸ hreport, rfl, rfl⟩⟩
    rw [note_store]
    exact hevents

end Writer
end BlobTree
