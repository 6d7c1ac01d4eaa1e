import Mathlib.Control.Monad.Basic
import BlobTree.Proofs.Writer.Chunking

/-!
# BlobTree.Proofs.FileTree.Upload

A file written through a session and read back. As long as the store refuses nothing, the file is
opened empty, its bytes are appended in chunks and then it has those bytes.

* `UnlessRefused`: an action that fails only if the store refuses something, with one rule for each
  thing that it may be made of.
* `writer_opens`, `getContent_given`: opening a session and reading a file.
-/

namespace BlobTree

variable {σ α β : Type} {b : Backend σ}

namespace Action

/-- From a state of the store on, an action ends well unless something is refused; `P` holds of what
it gives and of the state it leaves. -/
def UnlessRefused (x : Action (Traced σ) α) (s : Traced σ) (P : α → Traced σ → Prop) : Prop :=
  ∃ r s', x.Gives s r s' ∧ s.events <+: s'.events ∧
    match r with
    | .ok a => P a s'
    | .error _ => ¬s.Accepts s'

variable {x : Action (Traced σ) α} {s s' : Traced σ} {P : α → Traced σ → Prop}
  {Q : β → Traced σ → Prop}

theorem UnlessRefused.of_gives {a : α} (hx : x.Gives s (.ok a) s) (h : P a s) :
    x.UnlessRefused s P :=
  ⟨.ok a, s, hx, List.prefix_refl _, h⟩

theorem UnlessRefused.bind {f : α → Action (Traced σ) β} (hx : x.UnlessRefused s P)
    (hf : ∀ a s', P a s' → (f a).UnlessRefused s' Q) : (x >>= f).UnlessRefused s Q := by
  obtain ⟨r, s', hgives, hlater, hend⟩ := hx
  cases r with
  | error e => exact ⟨.error e, s', hgives.bind_error, hlater, hend⟩
  | ok a =>
    obtain ⟨r, s'', hgives', hlater', hend'⟩ := hf a s' hend
    refine ⟨r, s'', hgives.bind hgives', hlater.trans hlater', ?_⟩
    cases r with
    | ok a' => exact hend'
    | error e => exact fun hall => hend' ((Traced.accepts_trans hlater hlater').mp hall).2

theorem UnlessRefused.measured (hx : x.UnlessRefused s P) (name : Name) (labels : Option Labels) :
    (measured name x labels).UnlessRefused s P := by
  obtain ⟨r, s', hgives, hend⟩ := hx
  exact ⟨r, s', hgives.measured name labels, hend⟩

theorem UnlessRefused.exec {w w' : World (Traced σ)} {r : Except Stop α}
    (h : x.UnlessRefused w.store P) (hx : x.exec w = (r, w')) :
    w.store.events <+: w'.store.events ∧ (∀ a, r = .ok a → P a w'.store) ∧
      (w.store.Accepts w'.store → ∃ a, r = .ok a) := by
  obtain ⟨r', s', hgives, hlater, hend⟩ := h
  obtain ⟨hresult, rfl⟩ := hgives.exec
  rw [hx] at hresult hlater hend
  obtain rfl : r = r' := hresult
  cases r with
  | ok a =>
    refine ⟨hlater, fun a' heq => ?_, fun _ => ⟨a, rfl⟩⟩
    cases heq
    exact hend
  | error e => exact ⟨hlater, by simp, fun hquiet => absurd hquiet hend⟩

theorem unlessRefused_of_one {c : Call} {x : Action (Traced σ) c.Reply} (g : StoreError → Failure)
    (hx : x.Gives s ((b.traced.answer s c).1.mapError fun e => .failed (g e))
      (b.traced.answer s c).2) :
    x.UnlessRefused s fun a s' => b.answer s.store c = (.ok a, s'.store) := by
  refine ⟨_, _, hx, ⟨_, rfl⟩, ?_⟩
  rw [Backend.traced_answer]
  cases hanswer : b.answer s.store c with
  | mk reply store =>
    cases reply with
    | ok a => rfl
    | error e =>
      intro hall
      have hsince : s.since ⟨store, s.events ++ [⟨s.store, c, .error e⟩]⟩ =
          [⟨s.store, c, .error e⟩] := Traced.since_of_append rfl
      rw [Traced.Accepts, hsince] at hall
      cases hall _ List.mem_cons_self

theorem unlessRefused_call (c : Call) (s : Traced σ) :
    (call b.traced c).UnlessRefused s fun a s' => b.answer s.store c = (.ok a, s'.store) :=
  unlessRefused_of_one .store (gives_call b.traced c s)

end Action

namespace FileTree

open BlobTree.Action

variable {t : FileTree} {path : Name} {object : σ → Bytes} {c : Nat}

theorem unlessRefused_callAt (path : Name) (c : Call) (s : Traced σ) :
    (callAt b.traced path c).UnlessRefused s fun a s' => b.answer s.store c = (.ok a, s'.store) :=
  unlessRefused_of_one (fun e => Failure.atPath path (.store e)) (callAt_gives b.traced path c s)

/-- What is left of opening a session once there is room for its object. -/
theorem created_opens (hc : t.maxChunkSize.toPositive? = some c)
    (hb : b.Holds (t.root.keyOf path) object) (s : Traced σ) :
    (do
      call b.traced (.createAppendable (t.root.keyOf path))
      let size ← pure (Number.ofNat 0)
      log t.logger .debug
        [textField "path" path, ("append", .flag false), ("size", .number size)] "writer opened"
      Action.ofExcept (Writer.start path (t.root.keyOf path) size t.maxChunkSize
        (some (t.logger.child [textField "writer" path])))).UnlessRefused s fun w s' =>
      ∀ world : World (Traced σ), world.store = s' →
        Writer.Sent (t.root.keyOf path) c object s' [] w world := by
  have hpos : 0 < c := Number.toPositive?_pos hc
  let logger := some (t.logger.child [textField "writer" path])
  let w : Writer :=
    { path, key := t.root.keyOf path, chunk := c, chunk_pos := hpos, size := .ofNat 0, logger }
  have hstart : Writer.start path (t.root.keyOf path) (.ofNat 0) t.maxChunkSize logger = .ok w := by
    simp only [Writer.start, Append.chunkSize, hc, hpos, dif_pos]
    rfl
  refine (unlessRefused_call _ s).bind fun _ s' hanswer => ?_
  have hobject := hb.created s.store (by rw [hanswer])
  rw [hanswer] at hobject
  refine .of_gives (a := w) ((gives_pure _ s').bind ((gives_log _ _ _ _ s').bind ?_)) ?_
  · rw [hstart]
    exact gives_pure w s'
  · rintro world rfl
    refine
      { forKey := rfl, chunk := rfl, opened := rfl, counted := fun _ => rfl
        rest := List.drop_nil.symm, later := List.prefix_refl _, sent := ?_
        held := hobject.trans List.take_nil.symm }
    rw [Traced.since_self, List.length_nil, Nat.zero_div]
    rfl

theorem writer_opens (hc : t.maxChunkSize.toPositive? = some c) (hp : Path.isValid path)
    (hb : b.Holds (t.root.keyOf path) object) (s : Traced σ) :
    (t.writer b.traced path false).UnlessRefused s fun w s' =>
      ∀ world : World (Traced σ), world.store = s' →
        Writer.Sent (t.root.keyOf path) c object s' [] w world := by
  simp only [writer, onPath_valid hp]
  refine UnlessRefused.measured ?_ _ _
  refine (unlessRefused_call _ s).bind fun present s₁ _ => ?_
  simp only [Bool.false_eq_true, and_false, if_false]
  cases present with
  | false => exact created_opens hc hb s₁
  | true =>
    exact (unlessRefused_callAt path _ s₁).bind fun _ s₂ _ => created_opens hc hb s₂

theorem getContent_given (hp : Path.isValid path) (hb : b.Holds (t.root.keyOf path) object)
    (s : Traced σ) :
    (t.getContent b.traced path).UnlessRefused s fun data _ => data = object s.store := by
  rw [getContent, onPath_valid hp]
  refine UnlessRefused.measured ?_ _ _
  obtain ⟨r, s', hgives, hlater, hend⟩ :=
    unlessRefused_callAt (b := b) path (.get (t.root.keyOf path)) s
  refine ⟨r, s', hgives, hlater, ?_⟩
  cases r with
  | ok data => exact hb.given s.store data (by rw [show b.answer _ _ = _ from hend])
  | error e => exact hend

/-- **Chunks of the bytes.** A new file is written in any number of writes, ended and read. As long
as the store refuses nothing, every call goes well; after the writes the full chunks of all bytes
have been appended, after the end all chunks, and the file has the bytes. What has been appended
depends on the bytes alone. Sizes count single bytes up to `2^53` only. -/
theorem upload_chunked (b : Backend σ) (options : Options) (rootLogger : Logger)
    (logger : Option Logger) {c : Nat}
    (hc : ((options.maxChunkSize.getD b.maxAppendSize).min b.maxAppendSize).toPositive? = some c)
    {path : Name} (hp : Path.isValid path) {object : σ → Bytes}
    (hb : b.Holds ((Root.ofDir options.rootDirectory).keyOf path) object)
    (world : World (Traced σ)) (writes : List Bytes) {ending : Writer.Request}
    (hending : ending = .commit ∨ ending = .close) :
    let t := onStore b options rootLogger logger
    let data := writes.flatten
    let appends (n : Nat) := (Append.chunks c n data).map (.appendChunk (t.root.keyOf path))
    (∀ r world₀, (t.writer b.traced path false).exec world = (r, world₀) →
      world.store.Accepts world₀.store → ∃ w, r = .ok w) ∧
    (∀ w world₀, (t.writer b.traced path false).exec world = (.ok w, world₀) →
      ∀ accepted w₁ world₁, w.run b.traced (writes.map .write) world₀ = (accepted, w₁, world₁) →
      ∀ result w₂ world₂, w₁.perform b.traced ending world₁ = (result, w₂, world₂) →
      ∀ content world₃, (t.getContent b.traced path).exec world₂ = (content, world₃) →
      (world₀.store.Accepts world₁.store →
        (accepted = writes.map fun more => .ok more.length) ∧
        (world₀.store.since world₁.store).map (·.call) = appends (data.length / c) ∧
        (data.length ≤ Number.exactBound → w₁.size = .ofNat data.length)) ∧
      (world₀.store.Accepts world₂.store →
        result = .ok 0 ∧
        (world₀.store.since world₂.store).map (·.call) = appends ((data.length + c - 1) / c) ∧
        (data.length ≤ Number.exactBound → w₂.size = .ofNat data.length)) ∧
      (world₀.store.Accepts world₃.store → content = .ok data)) ∧
    ∀ piece ∈ Append.chunks c ((data.length + c - 1) / c) data,
      1 ≤ piece.length ∧ piece.length ≤ c := by
  intro t data appends
  have hpos : 0 < c := Number.toPositive?_pos hc
  refine ⟨fun r world₀ hopen hquiet => ?_, fun w world₀ hopen => ?_,
    fun piece => Append.length_of_mem_chunks hpos⟩
  · exact ((writer_opens (t := t) hc hp hb world.store).exec hopen).2.2 hquiet
  obtain ⟨-, hopened, -⟩ := (writer_opens (t := t) hc hp hb world.store).exec hopen
  have hsent : Writer.Sent (t.root.keyOf path) c object world₀.store [] w world₀ :=
    hopened w rfl world₀ rfl
  intro accepted w₁ world₁ hrun result w₂ world₂ hperform content world₃ hcontent
  have hlater₁ : world₀.store.events <+: world₁.store.events := by
    have hrest := Writer.run_extends b (writes.map .write) w world₀
    rwa [hrun] at hrest
  have hlater₂ : world₁.store.events <+: world₂.store.events := by
    have hrest := Writer.perform_extends b ending w₁ world₁
    rwa [hperform] at hrest
  obtain ⟨hlater₃, hgiven, hread⟩ := (getContent_given (t := t) hp hb world₂.store).exec hcontent
  -- what is accepted as far as a later point is accepted as far as the points before it
  have hall₂ := Traced.accepts_trans hlater₁ hlater₂
  have hall₃ := Traced.accepts_trans (hlater₁.trans hlater₂) hlater₃
  have hwritten (hquiet : world₀.store.Accepts world₁.store) :
      (accepted = writes.map fun more => .ok more.length) ∧
        Writer.Sent (t.root.keyOf path) c object world₀.store data w₁ world₁ := by
    obtain ⟨w', world', heq, h₁⟩ := Writer.run_sent hb writes hsent (by rwa [hrun])
    cases hrun.symm.trans heq
    exact ⟨rfl, h₁⟩
  have hended (hquiet : world₀.store.Accepts world₂.store) := by
    have hend := Writer.ending_sent hb (hwritten (hall₂.mp hquiet).1).2 hending
    rw [hperform] at hend
    exact hend (hall₂.mp hquiet).2
  refine ⟨fun hquiet => ?_, fun hquiet => ?_, fun hquiet => ?_⟩
  · obtain ⟨haccepted, h₁⟩ := hwritten hquiet
    exact ⟨haccepted, h₁.sent, h₁.counted⟩
  · obtain ⟨hdone, hsize, hcalls, -⟩ := hended hquiet
    exact ⟨hdone, hcalls, hsize⟩
  · obtain ⟨-, -, -, hobject⟩ := hended (hall₃.mp hquiet).1
    obtain ⟨given, rfl⟩ := hread (hall₃.mp hquiet).2
    rw [hgiven given rfl, hobject]

/-- Eight bytes in four writes, one of them of no bytes, over a file that is there. -/
theorem upload_chunked_uneven :
    let b := Memory.backend { maxAppendSize := .ofNat 3 }
    let options : Options := { rootDirectory := "r".toList, maxChunkSize := some (.ofNat 5) }
    let t := onStore b options default
    let path := "/f".toList
    let key := "r/f".toList
    let world : World (Traced Memory) := .fresh ⟨Memory.write {} default key [9] .block, []⟩
    let opened := (t.writer b.traced path false).exec world
    let w : Writer :=
      { path, key, chunk := 3, chunk_pos := Nat.succ_pos 2, size := .ofNat 0
        logger := some (t.logger.child [("writer", .text "/f")]) }
    let written := w.run b.traced ([[1, 2], [], [3, 4, 5, 6, 7], [8]].map .write) opened.2
    let ended := written.2.1.perform b.traced .close written.2.2
    let read := (t.getContent b.traced path).exec ended.2.2
    let calls (s : Traced Memory) := (opened.2.store.since s).map (·.call)
    Path.isValid path ∧ b.Holds key (·.bytesAt key) ∧ opened.1 = .ok w ∧
    opened.2.store.Accepts read.2.store ∧
    calls written.2.2.store = [.appendChunk key [1, 2, 3], .appendChunk key [4, 5, 6]] ∧
    calls ended.2.2.store =
      [.appendChunk key [1, 2, 3], .appendChunk key [4, 5, 6], .appendChunk key [7, 8]] ∧
    ended.2.1.size = .ofNat 8 ∧ read.1 = .ok [1, 2, 3, 4, 5, 6, 7, 8] := by
  intro b options t path key world opened w written ended read calls
  have hp : Path.isValid path := by decide +kernel
  have hkey : t.root.keyOf path = key := by decide +kernel
  have hb : b.Holds (t.root.keyOf path) (·.bytesAt (t.root.keyOf path)) := memory_holds _ _
  have hw : opened.1 = .ok w := by decide +kernel
  have hwritten : opened.2.store.Accepts written.2.2.store := by decide +kernel
  have hended : opened.2.store.Accepts ended.2.2.store := by decide +kernel
  have hread : opened.2.store.Accepts read.2.store := by decide +kernel
  have hsplit {α : Type} (r : α × Writer × World (Traced Memory)) : r = (r.1, r.2.1, r.2.2) := rfl
  obtain ⟨-, hrun, -⟩ := upload_chunked b options default none (c := 3) (by decide +kernel) hp hb
    world [[1, 2], [], [3, 4, 5, 6, 7], [8]] (.inr rfl)
  obtain ⟨hwrites, hends, hgiven⟩ := hrun w opened.2 (Prod.ext hw rfl) _ _ _ (hsplit written)
    _ _ _ (hsplit ended) _ _ (Prod.eta read).symm
  obtain ⟨-, hchunks, -⟩ := hwrites hwritten
  obtain ⟨-, hall, hsize⟩ := hends hended
  rw [hkey] at hchunks hall
  exact ⟨hp, hkey ▸ hb, hw, hread, hchunks, hall, hsize (by decide), hgiven hread⟩

end FileTree
end BlobTree
