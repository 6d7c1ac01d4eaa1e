import BlobTree.Store.Memory
import BlobTree.Store.Refusing
import BlobTree.Writer.Session

/-!
# BlobTree.Proofs.Writer.Append

What an append leaves in the store. The store is any backend that, for the object of one key, adds
an accepted chunk at the end and leaves the object alone when it refuses one (`AppendsTo`).

* `block_spec`: a block that stopped part way has put its first `appended` bytes there.
* `append_cases`: what a session's append does, for the store and for the session.
* `memory_appendsTo`, `refusing_appendsTo`: the memory store is such a backend, and stays one
  whatever calls are refused.
-/

namespace BlobTree

variable {σ : Type}

/-- The calls that append to `key` add what they accept to the object, seen through `object`, and
nothing else. -/
structure Backend.AppendsTo (b : Backend σ) (key : Name) (object : σ → Bytes) : Prop where
  accepted : ∀ s data, (b.answer s (.appendChunk key data)).1 = .ok () →
    object (b.answer s (.appendChunk key data)).2 = object s ++ data
  refused : ∀ s data e, (b.answer s (.appendChunk key data)).1 = .error e →
    object (b.answer s (.appendChunk key data)).2 = object s

/-- The bytes under a key; none if there is no object. -/
def Memory.bytesAt (m : Memory) (key : Name) : Bytes :=
  ((m.objects.get? key).map (·.data)).getD []

theorem Memory.bytesAt_write (o : Memory.Options) (m : Memory) (key : Name) (data : Bytes)
    (kind : ObjectKind) : (m.write o key data kind).bytesAt key = data := by
  simp [Memory.bytesAt, Memory.write, KeyMap.get?_insert]

theorem memory_appendsTo (o : Memory.Options) (key : Name) :
    (Memory.backend o).AppendsTo key (·.bytesAt key) where
  accepted m data h := by
    simp only [Memory.backend, Memory.step, Memory.withObject] at h ⊢
    split at h
    · rename_i x hx
      split at h
      · cases h
      · split at h
        · cases h
        · rename_i hk hs
          rw [if_neg hk, if_neg hs, Memory.bytesAt_write]
          simp [Memory.bytesAt, hx]
    · cases h
  refused m data e h := by
    show ((m.step o (.appendChunk key data)).2).bytesAt key = _
    rw [Memory.step_error o m h]

theorem refusing_appendsTo {b : Backend σ} {key : Name} {object : σ → Bytes}
    (h : b.AppendsTo key object) : b.refusing.AppendsTo key fun s => object s.store where
  accepted s data hok := by
    obtain ⟨store, plan⟩ := s
    rcases plan with _ | ⟨_ | e, plan⟩
    · exact h.accepted store data hok
    · exact h.accepted store data hok
    · cases hok
  refused s data e herr := by
    obtain ⟨store, plan⟩ := s
    rcases plan with _ | ⟨_ | e', plan⟩
    · exact h.refused store data e herr
    · exact h.refused store data e herr
    · rfl

namespace Append

variable {b : Backend σ} {key : Name} {object : σ → Bytes}

theorem send_spec (h : b.AppendsTo key object) (ps : List Bytes) (s : σ) :
    let (r, s') := send b key ps s
    r.appended ≤ ps.flatten.length ∧ object s' = object s ++ ps.flatten.take r.appended ∧
      (r.failure = none → r.appended = ps.flatten.length) := by
  -- The pieces before the refused one are in the store, in order.
  induction ps generalizing s with
  | nil => simp [send]
  | cons piece more ih =>
    cases hc : b.answer s (.appendChunk key piece) with
    | mk reply s1 =>
      cases reply with
      | error e =>
        have hobj := h.refused s piece e (by rw [hc])
        rw [hc] at hobj
        simp [send, hc, hobj]
      | ok _ =>
        have hobj := h.accepted s piece (by rw [hc])
        rw [hc] at hobj
        obtain ⟨hle, hrest, hdone⟩ := ih s1
        simp only [send, hc, List.flatten_cons, List.length_append]
        refine ⟨by omega, ?_, fun hf => by rw [hdone hf]⟩
        rw [hrest, hobj, List.append_assoc, List.take_length_add_append]

theorem block_spec (h : b.AppendsTo key object) {chunk : Nat} (hc : 0 < chunk) (data : Bytes)
    (s : σ) :
    let (r, s') := block b key chunk data s
    r.appended ≤ data.length ∧ object s' = object s ++ data.take r.appended ∧
      (r.failure = none → r.appended = data.length) := by
  have := send_spec h (pieces chunk data) s
  rwa [pieces_flatten hc] at this

end Append

namespace Writer

variable {b : Backend σ} {object : σ → Bytes}

/-- Either the whole block is in the store and the session is as it was, or the block's first `n`
bytes are and the session has given up the rest of the block and its buffer. -/
theorem append_cases {w : Writer} (h : b.AppendsTo w.key object) (data : Bytes) (world : World σ) :
    (∃ world', append b w data world = (.ok (), w, world') ∧
      object world'.store = object world.store ++ data) ∨
    (∃ e n world', n ≤ data.length ∧
      append b w data world =
        (.error (.store e), { w with
          size := w.size.shift (-(data.length - n + w.buffer.length : Nat)), buffer := [] },
          world') ∧
      object world'.store = object world.store ++ data.take n) := by
  have hb := Append.block_spec h w.chunk_pos data world.store
  cases hr : Append.block b w.key w.chunk data world.store with
  | mk report store =>
    rw [hr] at hb
    obtain ⟨hle, hobj, hdone⟩ := hb
    cases hf : report.failure with
    | none =>
      refine .inl ⟨{ world with store }, by simp [append, hr, hf], ?_⟩
      rw [hobj, hdone hf, List.take_length]
    | some e =>
      refine .inr ⟨e, report.appended, _, hle, by simp only [append, hr, hf]; rfl, ?_⟩
      rw [note_store, ← hobj]

end Writer
end BlobTree
