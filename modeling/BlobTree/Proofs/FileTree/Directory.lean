import Mathlib.Data.Finset.Image
import BlobTree.Proofs.FileTree.Delete
import BlobTree.Proofs.Path.Embedding

/-!
# BlobTree.Proofs.FileTree.Directory

The directories of a tree. None is stored anywhere: looking at a path asks for one key below it,
listing a path groups all keys below it, and deleting a path takes them one by one. Over a store
whose keys are those of some files, the three see one tree (`HasEntry`, `HasChild`).

* `stat_gives`, `list_gives`: how the two end, in terms of the keys below a path.
* `mem_listed`: the keys below a path are those of the files below it.
* `delete_leaves`: what is in the store after a delete (`leftOf`).
* `directories_agree`: looking, listing and deleting over one set of files.
-/

namespace BlobTree

/-- The keys under the root are those of a finite set of paths. -/
structure Root.Stores (root : Root) (m : Memory) (files : Finset Name) : Prop where
  valid : ∀ p ∈ files, Path.isValid p
  keys : ∀ k, root.owns k → (k ∈ m.objects.keys ↔ ∃ p ∈ files, root.keyOf p = k)

/-- Something lies below a directory. -/
def IsAbove (files : Finset Name) (p : Name) : Prop :=
  ∃ q ∈ files, Path.isBelow p q

/-- At a path there is a file or a directory. -/
def HasEntry (files : Finset Name) (p : Name) : Prop :=
  p ∈ files ∨ IsAbove files p

/-- A path one segment below a directory at which there is something. -/
def HasChild (files : Finset Name) (dir p : Name) : Prop :=
  Path.IsChild dir p ∧ HasEntry files p

/-- The files that a delete leaves: all but the one at the path or, if there is none, all but those
below the path. -/
def leftOf (files : Finset Name) (p : Name) : Finset Name :=
  if p ∈ files then files.erase p else files.filter fun q => ¬Path.isBelow p q

theorem Number.one_le_min {n : Number} (h : (Number.ofNat 1).le n) :
    (Number.ofNat 1).le ((Number.ofNat 1).min n) := by
  cases n with
  | finite q =>
    have hmin : (Number.ofNat 1).min (.finite q) = .ofNat 1 ∨
        (Number.ofNat 1).min (.finite q) = .finite q := by
      simp only [Number.min]
      exact ite_eq_or_eq _ _ _
    rcases hmin with hmin | hmin
    · rw [hmin]
      decide
    · rw [hmin]
      exact h
  | nan => cases h
  | negInf => cases h
  | posInf => rfl

namespace Root

variable {r : Root}

theorem owns_keyOf {p : Name} (hp : Path.isValid p) : r.owns (r.keyOf p) := by
  by_cases hkey : r.key = []
  · simp [owns, hkey]
  · obtain ⟨c, q, rfl, -⟩ := Path.exists_body hp
    rw [owns, keyOf_of_key_ne_nil hkey, Bool.or_eq_true, List.isPrefixOf_iff_prefix]
    exact .inr ⟨c :: q, by simp⟩

theorem listingPrefix_nil : r.listingPrefix [] = r.listingPrefix Path.root := rfl

/-- A listing of the root starts where one of the empty path does. -/
theorem listingPrefix_start (path : Name) :
    r.listingPrefix (if path = Path.root then [] else path) = r.listingPrefix path := by
  split
  · next hroot => rw [hroot, listingPrefix_nil]
  · rfl

theorem owns_of_listed {p k : Name} (hp : Path.isDirectory p)
    (h : (r.listingPrefix p).isPrefixOf k) : r.owns k := by
  rcases Path.isDirectory_iff.mp hp with rfl | hp
  · by_cases hkey : r.key = []
    · simp [owns, hkey]
    · rw [listingPrefix_root, keyOf_of_key_ne_nil hkey] at h
      simp [owns, h]
  · exact owns_of_listingPrefix hp h

end Root

namespace Root.Stores

variable {root : Root} {m : Memory} {files : Finset Name}

theorem of_keys (hvalid : ∀ p ∈ files, Path.isValid p)
    (hkeys : ∀ k ∈ m.objects.keys, root.owns k → ∃ p ∈ files, root.keyOf p = k)
    (hfiles : ∀ p ∈ files, root.keyOf p ∈ m.objects.keys) : root.Stores m files where
  valid := hvalid
  keys k howns := ⟨fun hk => hkeys k hk howns, fun ⟨p, hp, heq⟩ => heq ▸ hfiles p hp⟩

theorem mem_iff (h : root.Stores m files) {p : Name} (hp : Path.isValid p) :
    root.keyOf p ∈ m.objects.keys ↔ p ∈ files := by
  rw [h.keys _ (Root.owns_keyOf hp)]
  constructor
  · rintro ⟨q, hq, heq⟩
    exact Root.keyOf_injective (h.valid q hq) hp heq ▸ hq
  · exact fun hmem => ⟨p, hmem, rfl⟩

/-- A store without the objects of some files has the others. -/
theorem without (h : root.Stores m files) {m' : Memory} {left : Finset Name} (hleft : left ⊆ files)
    (hget : ∀ k, m'.objects.get? k =
      if k ∈ (files \ left).image root.keyOf then none else m.objects.get? k) :
    root.Stores m' left := by
  refine ⟨fun p hp => h.valid p (hleft hp), fun k howns => ?_⟩
  rw [KeyMap.mem_keys, hget]
  constructor
  · intro hk
    split at hk
    · cases hk
    · next hkept =>
      obtain ⟨p, hp, rfl⟩ := (h.keys k howns).mp (KeyMap.mem_keys.mpr hk)
      refine ⟨p, by_contra fun hgone => hkept ?_, rfl⟩
      exact Finset.mem_image_of_mem _ (Finset.mem_sdiff.mpr ⟨hp, hgone⟩)
  · rintro ⟨p, hp, rfl⟩
    rw [if_neg]
    · exact KeyMap.mem_keys.mp ((h.keys _ howns).mpr ⟨p, hleft hp, rfl⟩)
    · intro hgone
      obtain ⟨q, hq, hkey⟩ := Finset.mem_image.mp hgone
      obtain ⟨hfile, hout⟩ := Finset.mem_sdiff.mp hq
      obtain rfl := Root.keyOf_injective (h.valid q hfile) (h.valid p (hleft hp)) hkey
      exact hout hp

end Root.Stores

theorem leftOf_subset (files : Finset Name) (p : Name) : leftOf files p ⊆ files := by
  unfold leftOf
  split
  · exact Finset.erase_subset _ _
  · exact Finset.filter_subset _ _

namespace FileTree

open BlobTree.Action

variable {t : FileTree} {o : Memory.Options} {m : Memory} {path : Name} {files : Finset Name}

def listed (root : Root) (m : Memory) (path : Name) : List Name :=
  (keysBelow root m path).map root.pathUnder

theorem mem_listed (h : t.root.Stores m files) (hp : Path.isDirectory path) {q : Name} :
    q ∈ listed t.root m path ↔ q ∈ files ∧ Path.isBelow path q := by
  simp only [listed, List.mem_map, mem_keysBelow]
  constructor
  · rintro ⟨k, ⟨hk, hstart⟩, rfl⟩
    obtain ⟨q, hq, rfl⟩ := (h.keys k (Root.owns_of_listed hp hstart)).mp hk
    rw [Root.pathUnder_keyOf (h.valid q hq)]
    exact ⟨hq, Root.listingPrefix_isPrefixOf hp (h.valid q hq) ▸ hstart⟩
  · rintro ⟨hq, hbelow⟩
    have hvalid := h.valid q hq
    refine ⟨t.root.keyOf q, ⟨(h.mem_iff hvalid).mpr hq, ?_⟩, Root.pathUnder_keyOf hvalid⟩
    rwa [Root.listingPrefix_isPrefixOf hp hvalid]

theorem isAbove_iff (h : t.root.Stores m files) (hp : Path.isDirectory path) :
    IsAbove files path ↔ keysBelow t.root m path ≠ [] := by
  have hlisted : keysBelow t.root m path ≠ [] ↔ ∃ q, q ∈ listed t.root m path := by
    constructor
    · intro hne
      obtain ⟨k, hk⟩ := List.exists_mem_of_ne_nil _ hne
      exact ⟨_, List.mem_map_of_mem hk⟩
    · rintro ⟨q, hq⟩ hnil
      simp [listed, hnil] at hq
  rw [hlisted, IsAbove]
  exact exists_congr fun q => (mem_listed h hp).symm

theorem page_isEmpty_iff (hsize : (Number.ofNat 1).le o.pageSize) (root : Root) (m : Memory)
    (path : Name) :
    (Memory.page o.pageSize m.objects.keys (root.listingPrefix path)
      { maxResults := some (.ofNat 1) }).keys.isEmpty ↔ keysBelow root m path = [] := by
  obtain ⟨n, heq, hpos⟩ := Memory.page_spec m.objects.keys_sorted (root.listingPrefix path)
    { maxResults := some (.ofNat 1) }
  have hn := fun hne => (hpos (Number.one_le_min hsize) hne).ne'
  simp only [heq, List.isEmpty_iff, List.take_eq_nil_iff]
  exact ⟨fun hor => by_contra fun hne => hne (hor.resolve_left (hn hne)), .inr⟩

theorem look_gives (hsize : (Number.ofNat 1).le o.pageSize) :
    (do
      let page ← call (Memory.backend o)
        (.listPage (t.root.listingPrefix path) { maxResults := some (.ofNat 1) })
      if page.keys.isEmpty then fail (.pathNotFound path) else return Entry.directory path).Gives m
      (if keysBelow t.root m path = [] then .error (.failed (.pathNotFound path))
        else .ok (.directory path)) m := by
  have hpage : (call (Memory.backend o)
      (.listPage (t.root.listingPrefix path) { maxResults := some (.ofNat 1) })).Gives m
      (.ok (Memory.page o.pageSize m.objects.keys (t.root.listingPrefix path)
        { maxResults := some (.ofNat 1) })) m :=
    gives_call_ok rfl
  refine hpage.bind ?_
  by_cases hnone : keysBelow t.root m path = []
  · rw [if_pos ((page_isEmpty_iff hsize _ _ _).mpr hnone), if_pos hnone]
    exact gives_fail _ m
  · rw [if_neg (mt (page_isEmpty_iff hsize _ _ _).mp hnone), if_neg hnone]
    exact gives_pure _ m

theorem stat_absent (hsize : (Number.ofNat 1).le o.pageSize) (hp : Path.isDirectory path)
    (habsent : path = Path.root ∨ m.objects.get? (t.root.keyOf path) = none) :
    (t.stat (Memory.backend o) path).Gives m
      (if keysBelow t.root m path = [] then .error (.failed (.pathNotFound path))
        else .ok (.directory path)) m := by
  simp only [stat, onDirectory_valid hp]
  refine counted_gives ?_
  -- the root is never asked for as an object, so it is absent whatever is stored under its key
  by_cases hroot : path = Path.root
  · rw [if_neg (by simp [hroot])]
    exact (gives_pure none m).bind (look_gives hsize)
  · rw [if_pos hroot]
    refine (exists_gives _).bind ?_
    rw [KeyMap.contains_of_get?_none (habsent.resolve_left hroot)]
    exact (gives_pure none m).bind (look_gives hsize)

theorem stat_present (hp : Path.isValid path) {x : StoredObject}
    (hx : m.objects.get? (t.root.keyOf path) = some x) :
    (t.stat (Memory.backend o) path).Gives m
      (.ok (.file path (.ofNat x.data.length) x.modTime)) m := by
  obtain ⟨c, q, hcons, hc⟩ := Path.exists_body hp
  have hroot : path ≠ Path.root := by
    rw [hcons]
    rintro ⟨⟩
  simp only [stat, onDirectory_valid (Path.isDirectory_iff.mpr (.inr hp))]
  rw [if_pos hroot]
  refine counted_gives ((exists_gives _).bind ?_)
  rw [KeyMap.contains_of_get?_some hx]
  exact (properties_some hx).bind (gives_pure _ m)

theorem container_start (hp : Path.isDirectory path) :
    Listing.container (if path = Path.root then [] else path) = Path.asContainer path := by
  rcases Path.isDirectory_iff.mp hp with rfl | hp
  · rfl
  · obtain ⟨c, q, rfl, hc⟩ := Path.exists_body hp
    have hroot : Path.separator :: c :: q ≠ Path.root := by rintro ⟨⟩
    rw [if_neg hroot]
    rfl

/-- The paths right below a directory, as a listing groups them. -/
def childrenOf (root : Root) (m : Memory) (path : Name) : List Name :=
  Listing.children (listed root m path) (if path = Path.root then [] else path)

theorem mem_childrenOf (h : t.root.Stores m files) (hp : Path.isDirectory path) {c : Name} :
    c ∈ childrenOf t.root m path ↔ HasChild files path c := by
  rw [childrenOf, Listing.mem_children, container_start hp]
  constructor
  · rintro ⟨q, hq, -, rfl⟩
    obtain ⟨hfile, hbelow⟩ := (mem_listed h hp).mp hq
    obtain ⟨hchild, hon⟩ := Listing.childOf_of_isBelow hp (h.valid q hfile) hbelow
    refine ⟨hchild, hon.imp (fun heq => ?_) fun habove => ⟨q, hfile, habove⟩⟩
    rw [heq]
    exact hfile
  · rintro ⟨hchild, hentry⟩
    obtain ⟨q, hfile, hon⟩ : ∃ q ∈ files, c = q ∨ Path.isBelow c q := by
      rcases hentry with hfile | ⟨q, hfile, habove⟩
      · exact ⟨c, hfile, .inl rfl⟩
      · exact ⟨q, hfile, .inr habove⟩
    obtain ⟨hbelow, heq⟩ := Listing.childOf_of_isChild hp hchild hon
    exact ⟨q, (mem_listed h hp).mpr ⟨hfile, hbelow⟩, hbelow, heq⟩

theorem list_gives (hsize : (Number.ofNat 1).le o.pageSize)
    (hbudget : m.objects.size < t.pageBudget) (hp : Path.isDirectory path) :
    (t.list (Memory.backend o) path).Gives m
      (if path ≠ Path.root ∧ childrenOf t.root m path = [] then .error (.failed (.pathNotFound path))
        else .ok (childrenOf t.root m path)) m := by
  have hbelow := below_gives (t := t) hsize hbudget (if path = Path.root then [] else path)
  rw [keysBelow, Root.listingPrefix_start] at hbelow
  have hnil : (if path = Path.root then [] else path) ≠ [] ↔ path ≠ Path.root := by
    split
    · next hroot => simp [hroot]
    · next hroot =>
      refine iff_of_true ?_ hroot
      rintro rfl
      cases hp
  rw [list, onDirectory_valid hp]
  refine counted_gives (hbelow.bind ?_)
  show (if _ ≠ [] ∧ childrenOf t.root m path = [] then _ else _ : Action Memory (List Name)).Gives
    m _ m
  simp only [hnil]
  split
  · exact gives_fail _ m
  · exact gives_pure _ m

section Stored

variable (h : t.root.Stores m files) (hsize : (Number.ofNat 1).le o.pageSize)

include h

theorem stat_file (hfile : path ∈ files) :
    ∃ x, m.objects.get? (t.root.keyOf path) = some x ∧
      (t.stat (Memory.backend o) path).Gives m
        (.ok (.file path (.ofNat x.data.length) x.modTime)) m := by
  have hp := h.valid path hfile
  obtain ⟨x, hx⟩ := Option.isSome_iff_exists.mp (KeyMap.mem_keys.mp ((h.mem_iff hp).mpr hfile))
  exact ⟨x, hx, stat_present hp hx⟩

include hsize

theorem stat_otherwise (hp : Path.isDirectory path) (hfile : path ∉ files) :
    (IsAbove files path → (t.stat (Memory.backend o) path).Gives m (.ok (.directory path)) m) ∧
    (¬IsAbove files path →
      (t.stat (Memory.backend o) path).Gives m (.error (.failed (.pathNotFound path))) m) := by
  have habsent : path = Path.root ∨ m.objects.get? (t.root.keyOf path) = none := by
    refine (Path.isDirectory_iff.mp hp).imp_right fun hp => ?_
    have hkey := mt (h.mem_iff hp).mp hfile
    simpa [KeyMap.mem_keys] using hkey
  have hstat := stat_absent hsize hp habsent
  rw [isAbove_iff h hp]
  constructor
  · intro hbelow
    rwa [if_neg hbelow] at hstat
  · intro hnone
    rwa [if_pos (not_not.mp hnone)] at hstat

theorem stat_succeeds_iff (hp : Path.isDirectory path) :
    (∃ e, (t.stat (Memory.backend o) path).Gives m (.ok e) m) ↔ HasEntry files path := by
  by_cases hfile : path ∈ files
  · obtain ⟨x, -, hstat⟩ := stat_file h hfile
    exact iff_of_true ⟨_, hstat⟩ (.inl hfile)
  · obtain ⟨hdir, hnone⟩ := stat_otherwise h hsize hp hfile
    by_cases habove : IsAbove files path
    · exact iff_of_true ⟨_, hdir habove⟩ (.inr habove)
    · refine iff_of_false ?_ (not_or.mpr ⟨hfile, habove⟩)
      rintro ⟨e, hstat⟩
      cases (hstat.unique (hnone habove)).1

variable (hbudget : m.objects.size < t.pageBudget)

include hbudget

theorem list_children (hp : Path.isDirectory path) :
    (path = Path.root ∨ (∃ c, HasChild files path c) →
      ∃ cs, (t.list (Memory.backend o) path).Gives m (.ok cs) m ∧ cs.Nodup ∧
        ∀ c, c ∈ cs ↔ HasChild files path c) ∧
    (path ≠ Path.root → (¬∃ c, HasChild files path c) →
      (t.list (Memory.backend o) path).Gives m (.error (.failed (.pathNotFound path))) m) := by
  have hlist := list_gives (t := t) hsize hbudget hp
  have hmem := fun c => mem_childrenOf h hp (c := c)
  constructor
  · intro hsome
    have hne : ¬(path ≠ Path.root ∧ childrenOf t.root m path = []) := by
      rintro ⟨hroot, hnil⟩
      obtain ⟨c, hc⟩ := hsome.resolve_left hroot
      simpa [hnil] using (hmem c).mpr hc
    rw [if_neg hne] at hlist
    exact ⟨_, hlist, Listing.nodup_children _ _, hmem⟩
  · intro hroot hnone
    have hnil : childrenOf t.root m path = [] :=
      List.eq_nil_iff_forall_not_mem.mpr fun c hc => hnone ⟨c, (hmem c).mp hc⟩
    rwa [if_pos ⟨hroot, hnil⟩] at hlist

theorem delete_succeeds_iff (hp : Path.isValid path) :
    (∃ m', (t.delete (Memory.backend o) path).Gives m (.ok ()) m') ↔ HasEntry files path := by
  have hdelete := delete_gives (t := t) hsize hbudget hp
  have hentry : HasEntry files path ↔
      t.root.keyOf path ∈ m.objects.keys ∨ keysBelow t.root m path ≠ [] := by
    rw [HasEntry, h.mem_iff hp, isAbove_iff h (Path.isDirectory_iff.mpr (.inr hp))]
  rw [hentry]
  split at hdelete
  · next hthere => exact iff_of_true ⟨_, hdelete⟩ hthere
  · next hthere =>
    refine iff_of_false ?_ hthere
    rintro ⟨m', hgone⟩
    cases (hgone.unique hdelete).1

/-- A delete that succeeds takes the objects of the files that are not left, and no others. -/
theorem delete_leaves (hp : Path.isValid path) {m' : Memory}
    (hdelete : (t.delete (Memory.backend o) path).Gives m (.ok ()) m') (k : Name) :
    m'.objects.get? k =
      if k ∈ (files \ leftOf files path).image t.root.keyOf then none else m.objects.get? k := by
  obtain ⟨-, rfl⟩ := hdelete.unique (delete_gives (t := t) hsize hbudget hp)
  have hkey := h.mem_iff hp
  by_cases hfile : path ∈ files
  · rw [if_pos (hkey.mpr hfile), leftOf, if_pos hfile, Memory.remove, KeyMap.get?_erase]
    refine if_congr ?_ rfl rfl
    simp only [Finset.mem_image, Finset.mem_sdiff, Finset.mem_erase, not_and_or, not_not]
    constructor
    · rintro rfl
      exact ⟨path, ⟨hfile, .inl rfl⟩, rfl⟩
    · rintro ⟨q, ⟨hq, rfl | hout⟩, rfl⟩
      · rfl
      · exact absurd hq hout
  · rw [if_neg (mt hkey.mp hfile), leftOf, if_neg hfile, Memory.get?_removeAll]
    by_cases hk : k ∈ keysBelow t.root m path
    · rw [if_pos hk, if_pos]
      obtain ⟨hmem, hstart⟩ := mem_keysBelow.mp hk
      have hdir : Path.isDirectory path := Path.isDirectory_iff.mpr (.inr hp)
      obtain ⟨q, hq, rfl⟩ := (h.keys k (Root.owns_of_listed hdir hstart)).mp hmem
      rw [Root.listingPrefix_isPrefixOf hdir (h.valid q hq)] at hstart
      refine Finset.mem_image_of_mem _ (Finset.mem_sdiff.mpr ⟨hq, fun hleft => ?_⟩)
      exact (Finset.mem_filter.mp hleft).2 hstart
    · rw [if_neg hk, if_neg]
      intro hgone
      obtain ⟨q, hq, rfl⟩ := Finset.mem_image.mp hgone
      obtain ⟨hq, hout⟩ := Finset.mem_sdiff.mp hq
      have hvalid := h.valid q hq
      have hbelow : Path.isBelow path q :=
        by_contra fun hno => hout (Finset.mem_filter.mpr ⟨hq, hno⟩)
      have hdir : Path.isDirectory path := Path.isDirectory_iff.mpr (.inr hp)
      exact hk (mem_keysBelow.mpr ⟨(h.mem_iff hvalid).mpr hq,
        by rwa [Root.listingPrefix_isPrefixOf hdir hvalid]⟩)

end Stored

/-- **One directory tree.** Over a memory store whose keys under the root are those of some files,
looking at a path, listing it and deleting it go by the same files: a file is seen with its size
and time, a path above a file is a directory, and a directory is listed as its children, each once.
So every child that is listed can be looked at, every directory above a file is listed by its
parent, and what can be looked at can be deleted. A delete takes the file, or else all files below
the path, and the store is then one of the files that are left, each as it was. -/
theorem directories_agree (o : Memory.Options) (hsize : (Number.ofNat 1).le o.pageSize)
    (options : Options) (rootLogger : Logger) (logger : Option Logger) (m : Memory)
    (hbudget : m.objects.size < options.pageBudget) (files : Finset Name)
    (h : (Root.ofDir options.rootDirectory).Stores m files) :
    let b := Memory.backend o
    let t := onStore b options rootLogger logger
    (∀ p, Path.isDirectory p →
      (p ∈ files → ∃ x, m.objects.get? (t.root.keyOf p) = some x ∧
        (t.stat b p).Gives m (.ok (.file p (.ofNat x.data.length) x.modTime)) m) ∧
      (p ∉ files → IsAbove files p → (t.stat b p).Gives m (.ok (.directory p)) m) ∧
      (p ∉ files → ¬IsAbove files p →
        (t.stat b p).Gives m (.error (.failed (.pathNotFound p))) m) ∧
      (p = Path.root ∨ (∃ c, HasChild files p c) →
        ∃ cs, (t.list b p).Gives m (.ok cs) m ∧ cs.Nodup ∧ ∀ c, c ∈ cs ↔ HasChild files p c) ∧
      (p ≠ Path.root → (¬∃ c, HasChild files p c) →
        (t.list b p).Gives m (.error (.failed (.pathNotFound p))) m)) ∧
    (∀ p cs, Path.isDirectory p → (t.list b p).Gives m (.ok cs) m →
      ∀ c ∈ cs, ∃ e, (t.stat b c).Gives m (.ok e) m) ∧
    (∀ q ∈ files, ∀ p, Path.isValid p → Path.isBelow p q →
      ∃ cs, (t.list b (Path.parent p)).Gives m (.ok cs) m ∧ p ∈ cs) ∧
    (∀ p, Path.isValid p →
      ((∃ m', (t.delete b p).Gives m (.ok ()) m') ↔ ∃ e, (t.stat b p).Gives m (.ok e) m)) ∧
    (∀ p m', Path.isValid p → (t.delete b p).Gives m (.ok ()) m' →
      t.root.Stores m' (leftOf files p) ∧
      ∀ k, m'.objects.get? k =
        if k ∈ (files \ leftOf files p).image t.root.keyOf then none else m.objects.get? k) := by
  intro b t
  have ht : t.root.Stores m files := h
  have htb : m.objects.size < t.pageBudget := hbudget
  refine ⟨fun p hp => ?_, fun p cs hp hlist c hc => ?_, fun q hq p hp hbelow => ?_, fun p hp => ?_,
    fun p m' hp hdelete => ?_⟩
  · obtain ⟨hsome, hnone⟩ := list_children ht hsize htb hp
    exact ⟨stat_file ht, fun hfile => (stat_otherwise ht hsize hp hfile).1,
      fun hfile => (stat_otherwise ht hsize hp hfile).2, hsome, hnone⟩
  · obtain ⟨hsome, hnone⟩ := list_children ht hsize htb hp
    by_cases hany : p = Path.root ∨ ∃ c, HasChild files p c
    · obtain ⟨cs', hlist', -, hmem⟩ := hsome hany
      cases (hlist.unique hlist').1
      obtain ⟨hchild, hentry⟩ := (hmem c).mp hc
      exact (stat_succeeds_iff ht hsize (Path.isDirectory_child hp hchild)).mpr hentry
    · cases (hlist.unique (hnone (not_or.mp hany).1 (not_or.mp hany).2)).1
  · obtain ⟨hdir, hchild⟩ := Path.isChild_parent hp
    have hentry : HasChild files (Path.parent p) p := ⟨hchild, .inr ⟨q, hq, hbelow⟩⟩
    obtain ⟨cs, hlist, -, hmem⟩ := (list_children ht hsize htb hdir).1 (.inr ⟨p, hentry⟩)
    exact ⟨cs, hlist, (hmem p).mpr hentry⟩
  · rw [delete_succeeds_iff ht hsize htb hp,
      stat_succeeds_iff ht hsize (Path.isDirectory_iff.mpr (.inr hp))]
  · have hleft := delete_leaves ht hsize htb hp hdelete
    exact ⟨ht.without (leftOf_subset files p) hleft, hleft⟩

/-- A path that is a file and a directory, a directory without a file, and a neighbour of the
root. -/
theorem directories_agree_mixed :
    let o : Memory.Options := { pageSize := .ofNat 1 }
    let b := Memory.backend o
    let t := onStore b { rootDirectory := "r".toList } default
    let files : Finset Name := {"/a".toList, "/a/b".toList, "/c/d".toList}
    let m := ["r/a", "r/a/b", "r/c/d", "rx"].foldl
      (fun m k => Memory.write o m k.toList [1] .block) default
    (Number.ofNat 1).le o.pageSize ∧ (Root.ofDir "r".toList).Stores m files ∧
    m.objects.size < 1000000 ∧
    (t.stat b "/c".toList).Gives m (.ok (.directory "/c".toList)) m ∧
    (∃ cs, (t.list b Path.root).Gives m (.ok cs) m ∧ "/c".toList ∈ cs) ∧
    ∃ m', (t.delete b "/c".toList).Gives m (.ok ()) m' ∧
      t.root.Stores m' {"/a".toList, "/a/b".toList} ∧
      m'.objects.get? "rx".toList = m.objects.get? "rx".toList := by
  intro o b t files m
  have hsize : (Number.ofNat 1).le o.pageSize := by decide
  have hvalid : ∀ p ∈ files, Path.isValid p := by decide +kernel
  have hkeys : ∀ k ∈ m.objects.keys, (Root.ofDir "r".toList).owns k →
      ∃ p ∈ files, (Root.ofDir "r".toList).keyOf p = k := by decide +kernel
  have hfiles : ∀ p ∈ files, (Root.ofDir "r".toList).keyOf p ∈ m.objects.keys := by decide +kernel
  have hstores : (Root.ofDir "r".toList).Stores m files :=
    ⟨hvalid, fun k hk => ⟨fun hmem => hkeys k hmem hk, fun ⟨p, hp, heq⟩ => heq ▸ hfiles p hp⟩⟩
  have hc : Path.isValid "/c".toList := by decide +kernel
  obtain ⟨hlook, -, hlisted, hdelete, hleaves⟩ :=
    directories_agree o hsize { rootDirectory := "r".toList } default none m (by decide +kernel)
      files hstores
  have hstat := (hlook "/c".toList (by decide +kernel)).2.1 (by decide +kernel)
    ⟨"/c/d".toList, by decide +kernel, by decide +kernel⟩
  obtain ⟨m', hgone⟩ := (hdelete _ hc).mpr ⟨_, hstat⟩
  obtain ⟨hrest, hobjects⟩ := hleaves "/c".toList m' hc hgone
  have hleft : leftOf files "/c".toList = {"/a".toList, "/a/b".toList} := by decide +kernel
  refine ⟨hsize, hstores, by decide +kernel, hstat,
    hlisted "/c/d".toList (by decide +kernel) "/c".toList hc (by decide +kernel), m', hgone,
    hleft ▸ hrest, ?_⟩
  rw [hobjects, if_neg (by rw [hleft]; decide +kernel)]

end FileTree
end BlobTree
