import BlobTree.Proofs.FileTree.Step
import BlobTree.Proofs.Listing.Fetch

/-!
# BlobTree.Proofs.FileTree.Delete

Deleting a path. If it has no file, all keys below it are listed and deleted one after another
(`Memory.removeAll`): these are the keys of the files below it and no others, so that each delete
finds its object.

* `delete_gives`: what a delete removes and how it ends, if the pages of the listing are enough.
* `delete_ends`: deleting ends as in the map of files.
-/

namespace BlobTree

def Memory.removeAll (m : Memory) (ks : List Name) : Memory :=
  ks.foldl Memory.remove m

theorem Memory.get?_removeAll (m : Memory) (ks : List Name) (k : Name) :
    (m.removeAll ks).objects.get? k = if k ∈ ks then none else m.objects.get? k := by
  induction ks generalizing m with
  | nil => rfl
  | cons k' rest ih =>
    show ((m.remove k').removeAll rest).objects.get? k = _
    rw [ih, Memory.remove, KeyMap.get?_erase]
    by_cases hrest : k ∈ rest
    · simp [hrest]
    · simp [hrest]

theorem Memory.size_removeAll_le (m : Memory) (ks : List Name) :
    (m.removeAll ks).objects.size ≤ m.objects.size := by
  induction ks generalizing m with
  | nil => exact Nat.le_refl _
  | cons k rest ih => exact Nat.le_trans (ih (m.remove k)) (m.size_remove_le k)

namespace FileTree

open BlobTree.Action

variable {t : FileTree} {o : Memory.Options} {m : Memory} {fs : FileMap}

theorem deleteAll_gives (root : Root) {ks : List Name} (hnodup : ks.Nodup)
    (hthere : ∀ k ∈ ks, k ∈ m.objects.keys) (hkeys : ∀ k ∈ ks, root.keyOf (root.pathUnder k) = k) :
    ((ks.map root.pathUnder).forM fun file =>
      callAt (Memory.backend o) file (.delete (root.keyOf file))).Gives m (.ok ())
      (m.removeAll ks) := by
  -- A key is not touched by the deletes before its own.
  induction ks generalizing m with
  | nil => exact gives_pure () m
  | cons k rest ih =>
    obtain ⟨hnew, hrest⟩ := List.nodup_cons.mp hnodup
    obtain ⟨x, hx⟩ := Option.isSome_iff_exists.mp (KeyMap.mem_keys.mp (hthere k List.mem_cons_self))
    have hfirst : (callAt (Memory.backend o) (root.pathUnder k)
        (.delete (root.keyOf (root.pathUnder k)))).Gives m (.ok ()) (m.remove k) := by
      rw [hkeys k List.mem_cons_self]
      exact delete_some hx
    have hlater : ∀ k' ∈ rest, k' ∈ (m.remove k).objects.keys := by
      intro k' hk'
      have hne : k' ≠ k := fun heq => hnew (heq ▸ hk')
      have hold := KeyMap.mem_keys.mp (hthere k' (List.mem_cons_of_mem _ hk'))
      rw [KeyMap.mem_keys, Memory.remove, KeyMap.get?_erase, if_neg hne]
      exact hold
    rw [List.map_cons, List.forM]
    exact hfirst.bind (ih hrest hlater fun k' hk' => hkeys k' (List.mem_cons_of_mem _ hk'))

/-- The keys that a listing below a path finds. -/
def keysBelow (root : Root) (m : Memory) (path : Name) : List Name :=
  Memory.keysFrom m.objects.keys (root.listingPrefix path) []

theorem mem_keysBelow {root : Root} {path k : Name} :
    k ∈ keysBelow root m path ↔
      k ∈ m.objects.keys ∧ (root.listingPrefix path).isPrefixOf k := by
  rw [keysBelow, Memory.mem_keysFrom]
  simp [Units.not_lt_nil]

theorem keyOf_mem_keysBelow {root : Root} {path q : Name} (hp : Path.isValid path)
    (hq : Path.isValid q) :
    root.keyOf q ∈ keysBelow root m path ↔
      root.keyOf q ∈ m.objects.keys ∧ FileMap.isBelow path q := by
  rw [mem_keysBelow, Root.listingPrefix_isPrefixOf_keyOf hp hq]
  rfl

theorem below_gives (hsize : (Number.ofNat 1).le o.pageSize)
    (hbudget : m.objects.size < t.pageBudget) (path : Name) :
    (Listing.below (Memory.backend o) t.root t.pageBudget path).Gives m
      (.ok ((keysBelow t.root m path).map t.root.pathUnder)) m := by
  have hlength : (keysBelow t.root m path).length ≤ m.objects.keys.length :=
    List.length_filter_le _ _
  rw [KeyMap.length_keys] at hlength
  exact Listing.rest_memory hsize (Root.key_isPrefixOf_listingPrefix path) m Cursor.forward_start
    (Nat.lt_of_le_of_lt hlength hbudget)

theorem removeAll_represents (h : Represents t.root m fs) {path : Name} (hp : Path.isValid path) :
    Represents t.root (m.removeAll (keysBelow t.root m path))
      (fs.keep fun q => !FileMap.isBelow path q) := by
  refine h.keep (fun q hq => ?_) fun k hk => ?_
  · rw [Memory.get?_removeAll]
    by_cases hbelow : FileMap.isBelow path q
    · cases hget : m.objects.get? (t.root.keyOf q) with
      | none => simp
      | some x =>
        have hmem : t.root.keyOf q ∈ m.objects.keys :=
          KeyMap.mem_keys.mpr (Option.isSome_iff_exists.mpr ⟨x, hget⟩)
        rw [if_pos ((keyOf_mem_keysBelow hp hq).mpr ⟨hmem, hbelow⟩)]
        simp [hbelow]
    · rw [if_neg fun hmem => hbelow ((keyOf_mem_keysBelow hp hq).mp hmem).2]
      simp [hbelow]
  · rw [KeyMap.mem_keys, Memory.get?_removeAll] at hk
    split at hk
    · cases hk
    · exact KeyMap.mem_keys.mpr hk

theorem keysBelow_nodup (root : Root) (m : Memory) (path : Name) : (keysBelow root m path).Nodup :=
  Units.nodup_of_ascending (Memory.keysFrom_sorted m.objects.keys_sorted _ _)

theorem any_isBelow (h : Represents t.root m fs) {path : Name} (hp : Path.isValid path) :
    fs.map.keys.any (FileMap.isBelow path) = !(keysBelow t.root m path).isEmpty := by
  rw [Bool.eq_iff_iff, List.any_eq_true, Bool.not_eq_true', List.isEmpty_eq_false_iff_exists_mem]
  constructor
  · rintro ⟨q, hmem, hbelow⟩
    have hq := fs.valid q hmem
    exact ⟨_, (keyOf_mem_keysBelow hp hq).mpr ⟨(h.keyOf_mem_keys hq).mpr hmem, hbelow⟩⟩
  · rintro ⟨k, hk⟩
    obtain ⟨hmem, hstart⟩ := mem_keysBelow.mp hk
    obtain ⟨q, hq, -, hbelow⟩ := h.mem_below hp hmem hstart
    exact ⟨q, hq, hbelow⟩

theorem contains_iff {key : Name} : m.objects.contains key ↔ key ∈ m.objects.keys :=
  KeyMap.mem_keys.symm

/-- Deleting takes the object of the path, or else every object below it. -/
theorem delete_gives (hsize : (Number.ofNat 1).le o.pageSize)
    (hbudget : m.objects.size < t.pageBudget) {path : Name} (hp : Path.isValid path) :
    (t.delete (Memory.backend o) path).Gives m
      (if t.root.keyOf path ∈ m.objects.keys ∨ keysBelow t.root m path ≠ [] then .ok ()
        else .error (.failed (.pathNotFound path)))
      (if t.root.keyOf path ∈ m.objects.keys then m.remove (t.root.keyOf path)
        else m.removeAll (keysBelow t.root m path)) := by
  rw [delete, onPath_valid hp]
  refine counted_gives ?_
  by_cases hkey : t.root.keyOf path ∈ m.objects.keys
  case pos =>
    have hcall : (call (Memory.backend o) (.deleteIfExists (t.root.keyOf path))).Gives m
        (.ok true) (m.remove (t.root.keyOf path)) :=
      gives_call_ok (by rw [Memory.backend_answer, Memory.step, contains_iff.mpr hkey])
    rw [if_pos (.inl hkey), if_pos hkey]
    exact hcall.bind (gives_pure _ _)
  case neg =>
    have hx : m.objects.get? (t.root.keyOf path) = none := by
      simpa [KeyMap.mem_keys] using hkey
    have hcall : (call (Memory.backend o) (.deleteIfExists (t.root.keyOf path))).Gives m
        (.ok false) m :=
      gives_call_ok (by
        rw [Memory.backend_answer, Memory.step, KeyMap.contains_of_get?_none hx,
          Memory.remove_absent hx])
    have hlist := below_gives hsize hbudget path
    rw [if_neg hkey]
    by_cases hempty : keysBelow t.root m path = []
    case pos =>
      rw [if_neg (by simp [hkey, hempty])]
      refine hcall.bind (hlist.bind ?_)
      rw [hempty]
      exact (gives_fail _ m).bind_error
    case neg =>
      rw [if_pos (.inr hempty)]
      refine hcall.bind (hlist.bind ?_)
      rw [if_neg (by simpa using hempty)]
      exact (deleteAll_gives t.root (keysBelow_nodup t.root m path)
        (fun k hk => (mem_keysBelow.mp hk).1)
        fun k hk => (Root.pathUnder_listed hp (mem_keysBelow.mp hk).2).2).bind
          (gives_log _ _ _ _ _)

theorem delete_ends (h : Represents t.root m fs) (hsize : (Number.ofNat 1).le o.pageSize)
    (hbudget : m.objects.size < t.pageBudget) (path : Name) :
    t.Ends m (t.perform (Memory.backend o) (.delete path))
      (fs.perform (t.limits o) (.delete path)) := by
  simp only [perform, FileMap.perform]
  by_cases hp : Path.isValid path
  case neg =>
    rw [FileMap.onPath_invalid hp]
    exact ends_unchanged h (onPath_invalid hp _ m).bind_error
  case pos =>
    rw [FileMap.onPath_valid hp]
    have hdelete := delete_gives hsize hbudget hp
    have hfile : fs.map.contains path ↔ t.root.keyOf path ∈ m.objects.keys :=
      KeyMap.mem_keys.symm.trans (h.keyOf_mem_keys hp).symm
    have hbelow : fs.map.keys.any (FileMap.isBelow path) ↔ keysBelow t.root m path ≠ [] := by
      simp [any_isBelow h hp]
    by_cases hkey : t.root.keyOf path ∈ m.objects.keys
    · rw [if_pos (.inl hkey), if_pos hkey] at hdelete
      rw [if_pos (hfile.mpr hkey)]
      exact ⟨_, Gives.bind hdelete (gives_pure _ _), h.remove hp,
        Nat.le_succ_of_le (m.size_remove_le _)⟩
    · rw [if_neg (mt hfile.mp hkey)]
      rw [if_neg hkey] at hdelete
      by_cases hempty : keysBelow t.root m path = []
      · rw [if_neg (by simp [hkey, hempty]), hempty] at hdelete
        rw [if_neg fun hany => hbelow.mp hany hempty]
        exact ends_unchanged h hdelete.bind_error
      · rw [if_pos (.inr hempty)] at hdelete
        rw [if_pos (hbelow.mpr hempty)]
        exact ⟨_, Gives.bind hdelete (gives_pure _ _), removeAll_represents h hp,
          Nat.le_succ_of_le (m.size_removeAll_le _)⟩

end FileTree
end BlobTree
