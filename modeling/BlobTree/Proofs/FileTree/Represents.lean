import BlobTree.FileMap
import BlobTree.Proofs.Root
import BlobTree.Store.Memory

/-!
# BlobTree.Proofs.FileTree.Represents

When the objects of a memory store are the files of a map: the key of every valid path holds what
the map holds there, and the keys under the root are all keys of valid paths (`Represents`). Keys
that are not under the root are of no concern.

* `Represents.put`, `Represents.keep`, `Represents.remove`: writing and removing keep it so.
* `Represents.unique`: a store stands for one map at most.
-/

namespace BlobTree

/-- A key is under the root if it begins with the root's key and a separator; under an empty root
every key is. -/
def Root.owns (r : Root) (k : Name) : Bool :=
  r.key = [] || (r.key ++ [Path.separator]).isPrefixOf k

theorem Root.owns_of_listingPrefix {r : Root} {p k : Name} (hp : Path.isValid p)
    (h : (r.listingPrefix p).isPrefixOf k) : r.owns k := by
  by_cases hkey : r.key = []
  · simp [owns, hkey]
  · obtain ⟨c, q, hcons, -⟩ := Path.exists_body hp
    rw [Root.listingPrefix_of_isValid hp, Root.keyOf_of_key_ne_nil hkey, hcons,
      List.isPrefixOf_iff_prefix] at h
    have hprefix : r.key ++ [Path.separator] <+: k :=
      List.IsPrefix.trans ⟨c :: q ++ [Path.separator], by simp⟩ h
    simp only [owns, Bool.or_eq_true]
    exact .inr (List.isPrefixOf_iff_prefix.mpr hprefix)

structure Represents (root : Root) (m : Memory) (fs : FileMap) : Prop where
  stored : ∀ p, Path.isValid p →
    (m.objects.get? (root.keyOf p)).map (fun x => File.mk x.data x.kind) = fs.get? p
  owned : ∀ k ∈ m.objects.keys, root.owns k → ∃ p, Path.isValid p ∧ root.keyOf p = k

namespace Represents

variable {root : Root} {m m' : Memory} {fs fs' : FileMap} {p : Name} {f : File}

theorem empty (root : Root) : Represents root default FileMap.empty where
  stored _ _ := rfl
  owned k hk := by cases hk

theorem get?_some (h : Represents root m fs) (hp : Path.isValid p) (hf : fs.get? p = some f) :
    ∃ x, m.objects.get? (root.keyOf p) = some x ∧ f = ⟨x.data, x.kind⟩ := by
  have hstored := h.stored p hp
  rw [hf] at hstored
  obtain ⟨x, hx, hxf⟩ := Option.map_eq_some_iff.mp hstored
  exact ⟨x, hx, hxf.symm⟩

theorem get?_none (h : Represents root m fs) (hp : Path.isValid p) (hf : fs.get? p = none) :
    m.objects.get? (root.keyOf p) = none := by
  have hstored := h.stored p hp
  rw [hf] at hstored
  exact Option.map_eq_none_iff.mp hstored

theorem keyOf_mem_keys (h : Represents root m fs) (hp : Path.isValid p) :
    root.keyOf p ∈ m.objects.keys ↔ p ∈ fs.map.keys := by
  rw [KeyMap.mem_keys, KeyMap.mem_keys]
  show _ ↔ (fs.get? p).isSome
  rw [← h.stored p hp, Option.isSome_map]

theorem mem_below (h : Represents root m fs) (hp : Path.isValid p) {k : Name}
    (hk : k ∈ m.objects.keys) (hstart : (root.listingPrefix p).isPrefixOf k) :
    ∃ q ∈ fs.map.keys, root.keyOf q = k ∧ FileMap.isBelow p q := by
  obtain ⟨q, hq, rfl⟩ := h.owned k hk (Root.owns_of_listingPrefix hp hstart)
  rw [Root.listingPrefix_isPrefixOf_keyOf hp hq] at hstart
  exact ⟨q, (h.keyOf_mem_keys hq).mp hk, rfl, hstart⟩

theorem put (h : Represents root m fs) (o : Memory.Options) (hp : Path.isValid p) (f : File) :
    Represents root (m.write o (root.keyOf p) f.data f.kind) (fs.put p hp f) where
  stored q hq := by
    rw [FileMap.get?_put, ← h.stored q hq]
    simp only [Memory.write, KeyMap.get?_insert]
    by_cases heq : q = p
    · simp [heq]
    · have hkeys : root.keyOf q ≠ root.keyOf p := fun hk => heq (Root.keyOf_injective hq hp hk)
      simp [heq, hkeys]
  owned k hk howns := by
    rw [KeyMap.mem_keys] at hk
    simp only [Memory.write, KeyMap.get?_insert] at hk
    split at hk
    · next heq => exact ⟨p, hp, heq.symm⟩
    · exact h.owned k (KeyMap.mem_keys.mpr hk) howns

/-- Removing objects from a store, or files from a map, by any test that agrees on paths. -/
theorem keep (h : Represents root m fs) {test : Name → Bool}
    (hkept : ∀ q, Path.isValid q → m'.objects.get? (root.keyOf q) =
      if test q then m.objects.get? (root.keyOf q) else none)
    (hkeys : ∀ k ∈ m'.objects.keys, k ∈ m.objects.keys) :
    Represents root m' (fs.keep test) where
  stored q hq := by
    rw [FileMap.get?_keep, hkept q hq, ← h.stored q hq]
    split <;> rfl
  owned k hk := h.owned k (hkeys k hk)

theorem remove (h : Represents root m fs) (hp : Path.isValid p) :
    Represents root (m.remove (root.keyOf p)) (fs.remove p) := by
  refine h.keep (fun q hq => ?_) fun k hk => ?_
  · simp only [Memory.remove, KeyMap.get?_erase]
    by_cases heq : q = p
    · simp [heq]
    · have hkeys : root.keyOf q ≠ root.keyOf p := fun hk => heq (Root.keyOf_injective hq hp hk)
      simp [heq, hkeys]
  · rw [KeyMap.mem_keys] at hk ⊢
    simp only [Memory.remove, KeyMap.get?_erase] at hk
    split at hk
    · cases hk
    · exact hk

theorem unique (h : Represents root m fs) (h' : Represents root m fs') : fs = fs' := by
  refine FileMap.ext_get? fun p => ?_
  by_cases hp : Path.isValid p
  · rw [← h.stored p hp, h'.stored p hp]
  · have hnone : ∀ fs : FileMap, fs.get? p = none := fun fs =>
      Option.eq_none_iff_forall_not_mem.mpr fun f hf => hp (FileMap.isValid_of_get? hf)
    rw [hnone, hnone]

end Represents
end BlobTree
