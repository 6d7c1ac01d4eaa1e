import BlobTree.FileTree.Request
import BlobTree.Proofs.Execution
import BlobTree.Store.Memory

/-!
# BlobTree.Proofs.FileTree.Calls

What the tree's operations are made of: how each call on an object ends and, on a memory store, how
it ends when the object is there and when it is not.

* `onPath_gives`, `counted_gives`: around an operation.
* `callAt_gives`, `properties_gives`: how the two that translate a failure end, on any store.
* `start_key`, `start_error`: the session that is started last, and why there is none.
-/

namespace BlobTree

theorem Memory.size_write_le (o : Memory.Options) (m : Memory) (key : Name) (data : Bytes)
    (kind : ObjectKind) : (m.write o key data kind).objects.size ≤ m.objects.size + 1 :=
  m.objects.size_insert_le key _

theorem Memory.size_remove_le (m : Memory) (key : Name) :
    (m.remove key).objects.size ≤ m.objects.size :=
  m.objects.size_erase_le key

namespace FileTree

open BlobTree.Action

variable {σ α : Type} {b : Backend σ} {s s' : σ}

theorem onPath_valid {path : Name} (h : Path.isValid path) (x : Action σ α) :
    onPath path x = x :=
  if_pos h

theorem onPath_invalid {path : Name} (h : ¬Path.isValid path) (x : Action σ α) (s : σ) :
    (onPath path x).Gives s (.error (.failed (.invalidPath path))) s := by
  rw [onPath, if_neg h]
  exact gives_fail _ s

theorem onDirectory_valid {path : Name} (h : Path.isDirectory path) (x : Action σ α) :
    onDirectory path x = x :=
  if_pos h

theorem counted_gives {operation : String} {x : Action σ α} {r : Except Stop α}
    (h : x.Gives s r s') : (counted operation x).Gives s r s' :=
  h.measured _ _

theorem callAt_gives (b : Backend σ) (path : Name) (c : Call) (s : σ) :
    (callAt b path c).Gives s
      ((b.answer s c).1.mapError fun e => .failed (Failure.atPath path (.store e)))
      (b.answer s c).2 := by
  rintro w rfl
  rw [callAt, exec_mapFailure, exec_call]
  cases (b.answer w.store c).1 <;> exact ⟨_, rfl, rfl⟩

theorem callAt_ok {path : Name} {c : Call} {a : c.Reply} (h : b.answer s c = (.ok a, s')) :
    (callAt b path c).Gives s (.ok a) s' := by
  have hcall := callAt_gives b path c s
  rwa [h] at hcall

theorem callAt_error {path : Name} {c : Call} {e : StoreError}
    (h : b.answer s c = (.error e, s')) :
    (callAt b path c).Gives s (.error (.failed (Failure.atPath path (.store e)))) s' := by
  have hcall := callAt_gives b path c s
  rwa [h] at hcall

theorem callAt_notFound {path key : Name} {c : Call}
    (h : b.answer s c = (.error (.notFound key), s')) :
    (callAt b path c).Gives s (.error (.failed (.pathNotFound path))) s' :=
  callAt_error h

/-- What asking for properties ends with, given the store's answer. -/
def found : Except StoreError Properties → Except Stop (Option Properties)
  | .ok p => .ok (some p)
  | .error (.notFound _) => .ok none
  | .error e => .error (.failed (.store e))

theorem properties_gives (b : Backend σ) (key : Name) (s : σ) :
    (properties? b key).Gives s (found (b.answer s (.properties key)).1)
      (b.answer s (.properties key)).2 := by
  have hcall := gives_call b (.properties key) s
  generalize b.answer s (.properties key) = answered at hcall ⊢
  obtain ⟨e | p, s'⟩ := answered
  · refine hcall.attempt_failed.bind ?_
    cases e <;> first | exact gives_pure _ _ | exact gives_fail _ _
  · exact hcall.attempt_ok.bind (gives_pure _ s')

theorem start_key {path key : Name} {size maxChunkSize : Number} {logger : Option Logger}
    {w : Writer} (h : Writer.start path key size maxChunkSize logger = .ok w) : w.key = key := by
  rw [Writer.start] at h
  cases hchunk : Append.chunkSize maxChunkSize with
  | ok chunk =>
    rw [hchunk] at h
    cases h
    rfl
  | error f =>
    rw [hchunk] at h
    cases h

theorem start_error {path key : Name} {size maxChunkSize : Number} {logger : Option Logger}
    {f : Failure} (h : Writer.start path key size maxChunkSize logger = .error f) :
    f = .badChunkSize maxChunkSize ∧ maxChunkSize.toPositive? = none := by
  rw [Writer.start, Append.chunkSize] at h
  cases hpos : maxChunkSize.toPositive? with
  | none =>
    rw [hpos] at h
    cases h
    exact ⟨rfl, rfl⟩
  | some n =>
    rw [hpos] at h
    simp only [Number.toPositive?_pos hpos, dif_pos] at h
    cases h

variable {o : Memory.Options} {m : Memory} {key path : Name} {x : StoredObject}

theorem properties_some (h : m.objects.get? key = some x) :
    (properties? (Memory.backend o) key).Gives m
      (.ok (some ⟨.ofNat x.data.length, x.modTime, x.kind⟩)) m := by
  have hask := properties_gives (Memory.backend o) key m
  rwa [Memory.backend_answer, Memory.step, Memory.withObject_some h] at hask

theorem properties_none (h : m.objects.get? key = none) :
    (properties? (Memory.backend o) key).Gives m (.ok none) m := by
  have hask := properties_gives (Memory.backend o) key m
  rwa [Memory.backend_answer, Memory.step, Memory.withObject_none h] at hask

theorem exists_gives (key : Name) :
    (call (Memory.backend o) (.exists key)).Gives m (.ok (m.objects.contains key)) m :=
  gives_call_ok rfl

theorem delete_some (h : m.objects.get? key = some x) :
    (callAt (Memory.backend o) path (.delete key)).Gives m (.ok ()) (m.remove key) :=
  callAt_ok (Memory.withObject_some h _)

theorem drained_gives {stream : ByteStream} {data : Bytes} (h : stream.drain = .ok data) (s : σ) :
    (drained stream).Gives s (.ok (.content data)) s := by
  rw [drained, h]
  exact gives_pure _ s

def copied (t : FileTree) (o : Memory.Options) (m : Memory) (dest : Name) (x : StoredObject) :
    Memory :=
  m.write o (t.root.keyOf dest) x.data x.kind

theorem copied_source {t : FileTree} {source dest : Name}
    (hx : m.objects.get? (t.root.keyOf source) = some x) :
    ∃ y, (t.copied o m dest x).objects.get? (t.root.keyOf source) = some y ∧ y.data = x.data := by
  simp only [copied, Memory.write, KeyMap.get?_insert]
  split
  · exact ⟨_, rfl, rfl⟩
  · exact ⟨x, hx, rfl⟩

theorem put_gives {data : Bytes} (h : ¬o.maxPutSize.lt (.ofNat data.length)) :
    (call (Memory.backend o) (.put key data)).Gives m (.ok ()) (m.write o key data .block) :=
  gives_call_ok (if_neg h)

theorem createAppendable_gives :
    (call (Memory.backend o) (.createAppendable key)).Gives m (.ok ()) (m.write o key [] .append) :=
  gives_call_ok rfl

end FileTree
end BlobTree
