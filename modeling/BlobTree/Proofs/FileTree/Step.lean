import BlobTree.Proofs.FileTree.Calls
import BlobTree.Proofs.FileTree.Represents

/-!
# BlobTree.Proofs.FileTree.Step

The operations on one file over a memory store, next to the same operations on the files the store
stands for: they end alike, and the store then stands for the files that are left (`Ends`).

* `ends_onPath`, `ends_onFile`: the checks of a path and of the file, which come first on both
  sides.
* `getContent_ends`, `putContent_ends`, `reader_ends`, `writer_append_ends`, `writer_create_ends`,
  `move_ends`: operation by operation.
-/

namespace BlobTree
namespace FileTree

open BlobTree.Action

/-- An action on a store ends as an operation on the files it stands for does, and the store then
stands for the files after it. One key is added at most. -/
def Ends (t : FileTree) (m : Memory) (x : Action Memory Reply) (out : FileMap.Outcome) : Prop :=
  ∃ m', x.Gives m (out.1.mapError .failed) m' ∧ Represents t.root m' out.2 ∧
    m'.objects.size ≤ m.objects.size + 1

def limits (t : FileTree) (o : Memory.Options) : FileMap.Limits where
  maxPutSize := o.maxPutSize
  maxChunkSize := t.maxChunkSize

variable {t : FileTree} {o : Memory.Options} {m : Memory} {fs : FileMap}

theorem ends_unchanged (h : Represents t.root m fs) {x : Action Memory Reply}
    {r : Except Failure Reply} (hx : x.Gives m (r.mapError .failed) m) : t.Ends m x (r, fs) :=
  ⟨m, hx, h, Nat.le_succ _⟩

/-- The path of an operation is checked on both sides, and first. -/
theorem ends_onPath {α : Type} (h : Represents t.root m fs) (path : Name) {x : Action Memory α}
    {next : α → Action Memory Reply} {f : Path.isValid path → FileMap.Outcome}
    (hvalid : ∀ hp, t.Ends m (x >>= next) (f hp)) :
    t.Ends m (onPath path x >>= next) (fs.onPath path f) := by
  by_cases hp : Path.isValid path
  case pos =>
    rw [FileMap.onPath_valid hp, onPath_valid hp]
    exact hvalid hp
  case neg =>
    rw [FileMap.onPath_invalid hp]
    exact ends_unchanged h (onPath_invalid hp _ m).bind_error

/-- An operation on a file ends early if there is none. -/
theorem ends_onFile (h : Represents t.root m fs) {path : Name} (hp : Path.isValid path)
    {x : Action Memory Reply} {f : File → FileMap.Outcome}
    (habsent : m.objects.get? (t.root.keyOf path) = none →
      x.Gives m (.error (.failed (.pathNotFound path))) m)
    (hpresent : ∀ object, m.objects.get? (t.root.keyOf path) = some object →
      t.Ends m x (f ⟨object.data, object.kind⟩)) :
    t.Ends m x (fs.onFile path f) := by
  cases hf : fs.get? path with
  | none =>
    rw [FileMap.onFile_none hf]
    exact ends_unchanged h (habsent (h.get?_none hp hf))
  | some file =>
    obtain ⟨object, hobject, rfl⟩ := h.get?_some hp hf
    rw [FileMap.onFile_some hf]
    exact hpresent object hobject

theorem getContent_ends (h : Represents t.root m fs) (path : Name) :
    t.Ends m (t.perform (Memory.backend o) (.getContent path))
      (fs.perform (t.limits o) (.getContent path)) := by
  simp only [perform, FileMap.perform, getContent]
  refine ends_onPath h path fun hp => ends_onFile h hp (fun hx => ?_) fun x hx => ?_
  · have hcall : (callAt (Memory.backend o) path (.get (t.root.keyOf path))).Gives m
        (.error (.failed (.pathNotFound path))) m :=
      callAt_notFound (Memory.withObject_none hx _)
    exact (counted_gives hcall).bind_error
  · have hcall : (callAt (Memory.backend o) path (.get (t.root.keyOf path))).Gives m
        (.ok x.data) m :=
      callAt_ok (Memory.withObject_some hx _)
    exact ends_unchanged h ((counted_gives hcall).bind (gives_pure _ m))

theorem putContent_ends (h : Represents t.root m fs) (path : Name) (data : Bytes) :
    t.Ends m (t.perform (Memory.backend o) (.putContent path data))
      (fs.perform (t.limits o) (.putContent path data)) := by
  simp only [perform, FileMap.perform, putContent, Memory.backend_maxPutSize]
  refine ends_onPath h path fun hp => ?_
  by_cases hsize : o.maxPutSize.lt (.ofNat data.length)
  case pos =>
    have hlimit : (t.limits o).maxPutSize.lt (.ofNat data.length) := hsize
    rw [if_pos hsize, if_pos hlimit]
    exact ends_unchanged h (gives_fail _ m).bind_error
  case neg =>
    have hlimit : ¬(t.limits o).maxPutSize.lt (.ofNat data.length) := hsize
    rw [if_neg hsize, if_neg hlimit]
    refine ⟨m.write o (t.root.keyOf path) data .block, ?_, h.put o hp ⟨data, .block⟩,
      m.size_write_le o _ _ _⟩
    refine Gives.bind (a := ()) (counted_gives ?_) (gives_pure _ _)
    cases hx : m.objects.get? (t.root.keyOf path) with
    | none => exact (properties_none hx).bind (put_gives hsize)
    | some x =>
      refine (properties_some hx).bind ?_
      by_cases hkind : x.kind = .block
      case pos =>
        simp only [hkind]
        exact put_gives hsize
      case neg =>
        simp only [ne_eq, hkind, not_false_eq_true, if_true]
        refine Gives.bind (gives_log _ _ _ _ m) (Gives.bind (delete_some hx) ?_)
        rw [← m.write_remove]
        exact put_gives hsize

theorem read_drain {x : StoredObject} {key : Name} (hx : m.objects.get? key = some x) (k : Nat) :
    ∃ stream, m.step o (.read key (.ofNat k)) = (.ok stream, m) ∧
      stream.drain = .ok (x.data.drop k) := by
  refine ⟨_, Memory.withObject_some hx _, ?_⟩
  have hdrop : x.data.drop (min k x.data.length) = x.data.drop k := by
    rcases Nat.le_total k x.data.length with hle | hle
    · rw [Nat.min_eq_left hle]
    · rw [Nat.min_eq_right hle, List.drop_length, List.drop_eq_nil_of_le hle]
  simp only [Memory.cutAt_ofNat, hdrop, ByteStream.drain, ByteStream.error?]
  by_cases hempty : x.data.drop k = []
  · simp [hempty]
  · simp [hempty]

theorem reader_ends (h : Represents t.root m fs) (path : Name) (offset : Number) :
    t.Ends m (t.perform (Memory.backend o) (.reader path offset))
      (fs.perform (t.limits o) (.reader path offset)) := by
  simp only [perform, FileMap.perform, reader]
  refine ends_onPath h path fun hp => ?_
  rcases hint : offset.toInt? with _ | (k | k)
  case none =>
    exact ends_unchanged h (gives_fail (.invalidOffset path offset) m).bind_error
  case some.negSucc =>
    rw [if_pos (by simp [Int.negSucc_lt_zero])]
    exact ends_unchanged h (gives_fail (.invalidOffset path offset) m).bind_error
  case some.ofNat =>
    obtain rfl := Number.eq_ofNat_of_toInt? hint
    rw [if_neg (by simp)]
    refine ends_onFile h hp (fun hx => ?_) fun x hx => ?_
    · refine Gives.bind_error (counted_gives ?_)
      exact (properties_none hx).bind (gives_fail _ m)
    obtain ⟨stream, hread, hdrain⟩ := read_drain (o := o) hx k
    by_cases hend : x.data.length ≤ k
    case pos =>
      have hempty : ({} : ByteStream).drain = .ok (x.data.drop k) := by
        rw [List.drop_eq_nil_of_le hend]
        rfl
      refine ends_unchanged h (Gives.bind (counted_gives ?_) (drained_gives hempty m))
      refine (properties_some hx).bind ?_
      simp only [Number.le_ofNat, hend, decide_true, if_true]
      exact gives_pure _ m
    case neg =>
      refine ends_unchanged h (Gives.bind (counted_gives ?_) (drained_gives hdrain m))
      refine (properties_some hx).bind ?_
      simp only [Number.le_ofNat, hend, decide_false, Bool.false_eq_true, if_false]
      exact callAt_ok hread

theorem session_eq (o : Memory.Options) (t : FileTree) (path key : Name) (n : Nat)
    (logger : Option Logger) :
    (FileMap.session (t.limits o) path n).mapError Stop.failed =
      ((Writer.start path key (.ofNat n) t.maxChunkSize logger).mapError Stop.failed).map
        fun w => .session w.path w.size := by
  have hlimit : (t.limits o).maxChunkSize = t.maxChunkSize := rfl
  rw [FileMap.session, hlimit, Writer.start, Append.chunkSize]
  cases hpos : t.maxChunkSize.toPositive? with
  | none => rfl
  | some chunk =>
    simp only [Number.toPositive?_pos hpos, dif_pos]
    rfl

/-- What is left of opening a session once the object is there. -/
theorem opened_gives (t : FileTree) (path key : Name) (append : Bool) (n : Nat) (m : Memory) :
    let logger := some (t.logger.child [textField "writer" path])
    (do
      log t.logger .debug
        [textField "path" path, ("append", .flag append), ("size", .number (.ofNat n))]
        "writer opened"
      ofExcept (Writer.start path key (.ofNat n) t.maxChunkSize logger)).Gives m
      ((Writer.start path key (.ofNat n) t.maxChunkSize logger).mapError .failed) m :=
  (gives_log _ _ _ _ m).bind (gives_ofExcept _ m)

theorem writer_append_ends (h : Represents t.root m fs) (path : Name) :
    t.Ends m (t.perform (Memory.backend o) (.writer path true))
      (fs.perform (t.limits o) (.writer path true)) := by
  simp only [perform, FileMap.perform, writer]
  refine ends_onPath h path fun hp => ends_onFile h hp (fun hx => ?_) fun x hx => ?_
  · refine Gives.bind_error (counted_gives ?_)
    refine (exists_gives _).bind ?_
    rw [KeyMap.contains_of_get?_none hx]
    exact (gives_fail _ m).bind_error
  · refine ends_unchanged h ?_
    rw [session_eq]
    refine Gives.map (counted_gives ?_) _
    refine (exists_gives _).bind ?_
    rw [KeyMap.contains_of_get?_some hx]
    refine (properties_some hx).bind ?_
    exact (gives_pure _ m).bind (opened_gives t path (t.root.keyOf path) true _ m)

theorem writer_create_ends (h : Represents t.root m fs) (path : Name) :
    t.Ends m (t.perform (Memory.backend o) (.writer path false))
      (fs.perform (t.limits o) (.writer path false)) := by
  simp only [perform, FileMap.perform, writer]
  refine ends_onPath h path fun hp => ?_
  refine ⟨m.write o (t.root.keyOf path) [] .append, ?_, h.put o hp ⟨[], .append⟩,
    m.size_write_le o _ _ _⟩
  rw [session_eq]
  refine Gives.map (counted_gives ?_) _
  refine (exists_gives _).bind ?_
  have hopened := opened_gives t path (t.root.keyOf path) false 0
    (m.write o (t.root.keyOf path) [] .append)
  cases hx : m.objects.get? (t.root.keyOf path) with
  | none =>
    rw [KeyMap.contains_of_get?_none hx]
    exact createAppendable_gives.bind ((gives_pure _ _).bind hopened)
  | some x =>
    rw [KeyMap.contains_of_get?_some hx]
    refine (delete_some hx).bind ?_
    rw [← m.write_remove] at hopened ⊢
    exact createAppendable_gives.bind ((gives_pure _ _).bind hopened)

/-- Moving a file onto itself copies it onto itself and then deletes it. -/
theorem move_ends (h : Represents t.root m fs) (source dest : Name) :
    t.Ends m (t.perform (Memory.backend o) (.move source dest))
      (fs.perform (t.limits o) (.move source dest)) := by
  simp only [perform, FileMap.perform, move]
  refine ends_onPath h source fun hsource => ends_onPath h dest fun hdest =>
    ends_onFile h hsource (fun hx => ?_) fun x hx => ?_
  · have hcopy : (callAt (Memory.backend o) source
        (.copy (t.root.keyOf source) (t.root.keyOf dest))).Gives m
        (.error (.failed (.pathNotFound source))) m :=
      callAt_notFound (Memory.withObject_none hx _)
    exact (counted_gives hcopy.bind_error).bind_error
  · have hcopy : (callAt (Memory.backend o) source
        (.copy (t.root.keyOf source) (t.root.keyOf dest))).Gives m (.ok ())
        (t.copied o m dest x) :=
      callAt_ok (Memory.withObject_some hx _)
    obtain ⟨y, hy, -⟩ := copied_source (o := o) (t := t) (x := x) hx
    refine ⟨(t.copied o m dest x).remove (t.root.keyOf source),
      (counted_gives (hcopy.bind (delete_some hy))).bind (gives_pure _ _),
      (h.put o hdest ⟨x.data, x.kind⟩).remove hsource, ?_⟩
    have hwrite : (t.copied o m dest x).objects.size ≤ m.objects.size + 1 :=
      m.size_write_le o _ _ _
    have hremove := (t.copied o m dest x).size_remove_le (t.root.keyOf source)
    omega

end FileTree
end BlobTree
