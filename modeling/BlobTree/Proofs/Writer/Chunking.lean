import BlobTree.Proofs.FileTree.Calls
import BlobTree.Proofs.Writer.Append
import BlobTree.Proofs.Writer.Calls
import BlobTree.Proofs.Writer.Chunks
import BlobTree.Proofs.Writer.Refusal

/-!
# BlobTree.Proofs.Writer.Chunking

A session on a new object cuts the bytes it is given into chunks by their place alone. As long as
the store refuses nothing, the full chunks of all bytes so far have been appended and the buffer
has the rest (`Sent`), whichever writes the bytes came in; the end of the session sends the rest.

* `Backend.Holds`: what is assumed of a store where the content of the object is concerned.
* `append_accepted`: a block that is accepted, chunk by chunk.
* `write_sent`, `run_sent`: one write and any run of writes; `ending_sent`: the end of the session.
-/

namespace BlobTree

variable {σ : Type}

/-- The store keeps the object of a key: it is empty when it is created, an accepted chunk is
added at its end, and it is what the store gives. -/
structure Backend.Holds (b : Backend σ) (key : Name) (object : σ → Bytes) : Prop where
  created : ∀ s, (b.answer s (.createAppendable key)).1 = .ok () →
    object (b.answer s (.createAppendable key)).2 = []
  appended : ∀ s data, (b.answer s (.appendChunk key data)).1 = .ok () →
    object (b.answer s (.appendChunk key data)).2 = object s ++ data
  given : ∀ s data, (b.answer s (.get key)).1 = .ok data → data = object s

theorem memory_holds (o : Memory.Options) (key : Name) :
    (Memory.backend o).Holds key (·.bytesAt key) where
  created m _ := Memory.bytesAt_write o m key [] .append
  appended := (memory_appendsTo o key).accepted
  given m data h := by
    simp only [Memory.backend_answer, Memory.step, Memory.withObject] at h
    split at h
    · next x hx =>
      cases h
      simp [Memory.bytesAt, hx]
    · cases h

variable {b : Backend σ} {key : Name} {object : σ → Bytes} {c : Nat}

theorem Append.send_holds (h : b.Holds key object) (ps : List Bytes) (s : Traced σ)
    (hdone : (send b.traced key ps s).1.failure = none) :
    object (send b.traced key ps s).2.store = object s.store ++ ps.flatten := by
  induction ps generalizing s with
  | nil => simp [send]
  | cons piece more ih =>
    rw [send, Backend.traced_answer] at hdone ⊢
    cases hreply : (b.answer s.store (.appendChunk key piece)).1 with
    | error e =>
      simp only [hreply] at hdone
      cases hdone
    | ok _ =>
      simp only [hreply] at hdone ⊢
      rw [ih _ hdone, h.appended _ _ hreply, List.flatten_cons, List.append_assoc]

namespace Writer

theorem perform_extends (b : Backend σ) (q : Request) (w : Writer) (world : World (Traced σ)) :
    world.store.events <+: (perform b.traced q w world).2.2.store.events := by
  obtain ⟨events, hevents, -⟩ := perform_passedOn b q w world
  exact ⟨events, hevents.symm⟩

theorem run_extends (b : Backend σ) (qs : List Request) (w : Writer) (world : World (Traced σ)) :
    world.store.events <+: (run b.traced qs w world).2.2.store.events := by
  induction qs generalizing w world with
  | nil => exact List.prefix_refl _
  | cons q rest ih => exact (perform_extends b q w world).trans (ih _ _)

theorem append_accepted {w : Writer} (h : b.Holds w.key object) (data : Bytes)
    (world : World (Traced σ))
    (hquiet : world.store.Accepts (append b.traced w data world).2.2.store) :
    ∃ world', append b.traced w data world = (.ok (), w, world') ∧
      world.store.events <+: world'.store.events ∧
      (world.store.since world'.store).map (·.call) =
        (Append.pieces w.chunk data).map (.appendChunk w.key) ∧
      object world'.store.store = object world.store.store ++ data := by
  obtain ⟨calls, hevents, -, hend⟩ := append_traced b w data world
  have hsince := Traced.since_of_append hevents
  rw [Traced.Accepts, hsince] at hquiet
  rcases hend with ⟨-, hcalls, hresult, hsession⟩ | ⟨e, size, hrefusal, -, -⟩
  · refine ⟨(append b.traced w data world).2.2, Prod.ext hresult (Prod.ext hsession rfl),
      ⟨calls, hevents.symm⟩, by rw [hsince, hcalls], ?_⟩
    simp only [append, Append.block] at hresult ⊢
    cases hdone :
        (Append.send b.traced w.key (Append.pieces w.chunk data) world.store).1.failure with
    | none =>
      have hholds := Append.send_holds h _ world.store hdone
      rwa [Append.pieces_flatten w.chunk_pos] at hholds
    | some e =>
      simp only [hdone] at hresult
      cases hresult
  · rw [List.findSome?_eq_none_iff.mpr hquiet] at hrefusal
    cases hrefusal

/-- A session that has been given some bytes, since the store was in a state `base`: the full
chunks have been appended, in order, and the rest is in the buffer. -/
structure Sent (key : Name) (c : Nat) (object : σ → Bytes) (base : Traced σ) (data : Bytes)
    (w : Writer) (world : World (Traced σ)) : Prop where
  forKey : w.key = key
  chunk : w.chunk = c
  opened : w.state = .open
  counted : data.length ≤ Number.exactBound → w.size = .ofNat data.length
  rest : w.buffer = data.drop (data.length / c * c)
  later : base.events <+: world.store.events
  sent : (base.since world.store).map (·.call) =
    (Append.chunks c (data.length / c) data).map (.appendChunk key)
  held : object world.store.store = data.take (data.length / c * c)

variable {base : Traced σ} {data : Bytes} {w : Writer} {world : World (Traced σ)}

namespace Sent

/-- The bytes that a write completes to full chunks come right after those that have been sent. -/
theorem full_eq (h : Sent key c object base data w world) (more : Bytes) :
    (data ++ more).length / c = data.length / c + (w.buffer ++ more).length / c ∧
      w.buffer ++ more = (data ++ more).drop (data.length / c * c) := by
  have hc : 0 < c := h.chunk ▸ w.chunk_pos
  have hle : data.length / c * c ≤ data.length := Nat.div_mul_le_self _ _
  have hheld : w.buffer ++ more = (data ++ more).drop (data.length / c * c) := by
    rw [h.rest, List.drop_append_of_le_length hle]
  refine ⟨?_, hheld⟩
  rw [hheld, List.length_drop, ← Nat.mul_add_div hc, Nat.mul_comm c]
  congr 1
  rw [List.length_append]
  omega

end Sent

theorem write_sent (hb : b.Holds key object) (h : Sent key c object base data w world)
    (more : Bytes)
    (hquiet : world.store.Accepts (write b.traced w more world).2.2.store) :
    ∃ w' world', write b.traced w more world = (.ok more.length, w', world') ∧
      Sent key c object base (data ++ more) w' world' := by
  obtain ⟨hcount, hheld⟩ := h.full_eq more
  have hc : 0 < c := h.chunk ▸ w.chunk_pos
  obtain rfl := h.forKey
  rw [write_eq_append h.opened] at hquiet ⊢
  obtain ⟨world', happend, hlater, hcalls, hobject⟩ :=
    append_accepted (w := w.holding more) hb (w.full more) world hquiet
  rw [happend]
  refine ⟨w.holding more, world', rfl, ?_⟩
  have hchunk : w.chunk = c := h.chunk
  have hle : data.length / c * c ≤ data.length := Nat.div_mul_le_self _ _
  refine
    { forKey := rfl, chunk := hchunk, opened := h.opened, counted := fun hfit => ?_, rest := ?_
      later := h.later.trans hlater, sent := ?_, held := ?_ }
  · rw [List.length_append] at hfit ⊢
    show w.size.shift more.length = _
    rw [h.counted (by omega), Number.shift_add hfit]
  · show (w.buffer ++ more).drop _ = _
    rw [hchunk, ← Nat.div_mul_self_eq_mod_sub_self, hcount, hheld, List.drop_drop, Nat.add_mul]
  · have hpieces : Append.pieces (w.holding more).chunk (w.full more) =
        Append.chunks c ((w.buffer ++ more).length / c) (w.buffer ++ more) := by
      rw [full, show (w.holding more).chunk = c from hchunk, hchunk, Append.pieces_full hc]
    rw [hpieces] at hcalls
    rw [Traced.since_trans h.later hlater, List.map_append, h.sent, hcalls, hcount,
      Append.chunks_add, ← hheld, Append.chunks_append hle, List.map_append]
    rfl
  · rw [hobject, h.held, hcount, Nat.add_mul, List.take_add, ← hheld,
      List.take_append_of_le_length hle, full, hchunk,
      ← Nat.div_mul_self_eq_mod_sub_self]

theorem run_sent (hb : b.Holds key object) (writes : List Bytes)
    (h : Sent key c object base data w world)
    (hquiet : world.store.Accepts (run b.traced (writes.map .write) w world).2.2.store) :
    ∃ w' world', run b.traced (writes.map .write) w world =
      (writes.map fun more => .ok more.length, w', world') ∧
      Sent key c object base (data ++ writes.flatten) w' world' := by
  induction writes generalizing data w world with
  | nil => exact ⟨w, world, rfl, by simpa using h⟩
  | cons more writes ih =>
    have hfirst := perform_extends b (.write more) w world
    have hafter := run_extends b (writes.map .write) (perform b.traced (.write more) w world).2.1
      (perform b.traced (.write more) w world).2.2
    obtain ⟨hquiet, hlater⟩ := (Traced.accepts_trans hfirst hafter).mp hquiet
    obtain ⟨w₁, world₁, hwrite, h₁⟩ := write_sent hb h more hquiet
    have hperform : perform b.traced (.write more) w world = (.ok more.length, w₁, world₁) := hwrite
    rw [hperform] at hlater
    rw [List.map_cons, run, hperform]
    obtain ⟨w', world', hrun, h'⟩ := ih h₁ hlater
    refine ⟨w', world', by simp only [hrun, List.map_cons], ?_⟩
    rwa [List.flatten_cons, ← List.append_assoc]

theorem flush_sent (hb : b.Holds key object) (h : Sent key c object base data w world)
    (hquiet : world.store.Accepts (flush b.traced w world).2.2.store) :
    ∃ world', flush b.traced w world = (.ok (), { w with buffer := [] }, world') ∧
      (base.since world'.store).map (·.call) =
        (Append.chunks c ((data.length + c - 1) / c) data).map (.appendChunk key) ∧
      object world'.store.store = data := by
  have hc : 0 < c := h.chunk ▸ w.chunk_pos
  obtain rfl := h.forKey
  rw [flush_eq_append] at hquiet ⊢
  obtain ⟨world', happend, hlater, hcalls, hobject⟩ :=
    append_accepted (w := { w with buffer := [] }) hb w.buffer world hquiet
  refine ⟨world', happend, ?_, ?_⟩
  · have hchunk : w.chunk = c := h.chunk
    simp only [hchunk] at hcalls
    rw [Traced.since_trans h.later hlater, List.map_append, h.sent, hcalls, ← List.map_append,
      h.rest, Append.chunks_full_add hc]
  · rw [hobject, h.held, h.rest, List.take_append_drop]

theorem ending_eq_flush {q : Request} (hq : q = .commit ∨ q = .close) (hopen : w.state = .open)
    (b : Backend σ) (world : World σ) :
    (perform b q w world).2.2.store = (flush b w world).2.2.store ∧
      ∀ w' world', flush b w world = (.ok (), w', world') →
        (perform b q w world).1 = .ok 0 ∧ (perform b q w world).2.1.size = w'.size := by
  rcases hq with rfl | rfl
  · have hlegal : w.state ∈ Operation.commit.allowed := by simp [hopen, Operation.allowed]
    rw [perform, commit, allowing_legal hlegal]
    rcases flush b w world with ⟨f | _, w', world'⟩
    · exact ⟨rfl, fun _ _ hflush => by cases hflush⟩
    · refine ⟨note_store .., fun _ _ hflush => ?_⟩
      cases hflush
      exact ⟨rfl, rfl⟩
  · have hlegal : w.state ∈ Operation.close.allowed := by simp [hopen, Operation.allowed]
    rw [perform, close, allowing_legal hlegal, if_pos hopen]
    rcases flush b w world with ⟨f | _, w', world'⟩
    · exact ⟨rfl, fun _ _ hflush => by cases hflush⟩
    · refine ⟨rfl, fun _ _ hflush => ?_⟩
      cases hflush
      exact ⟨rfl, rfl⟩

theorem ending_sent (hb : b.Holds key object) (h : Sent key c object base data w world)
    {q : Request} (hq : q = .commit ∨ q = .close)
    (hquiet : world.store.Accepts (perform b.traced q w world).2.2.store) :
    (perform b.traced q w world).1 = .ok 0 ∧
      (data.length ≤ Number.exactBound →
        (perform b.traced q w world).2.1.size = .ofNat data.length) ∧
      (base.since (perform b.traced q w world).2.2.store).map (·.call) =
        (Append.chunks c ((data.length + c - 1) / c) data).map (.appendChunk key) ∧
      object (perform b.traced q w world).2.2.store.store = data := by
  obtain ⟨hstore, hend⟩ := ending_eq_flush hq h.opened b.traced world
  rw [hstore] at hquiet ⊢
  obtain ⟨world', hflush, hcalls, hobject⟩ := flush_sent hb h hquiet
  obtain ⟨hresult, hsize⟩ := hend _ _ hflush
  rw [hflush]
  exact ⟨hresult, fun hfit => hsize.trans (h.counted hfit), hcalls, hobject⟩

end Writer
end BlobTree
