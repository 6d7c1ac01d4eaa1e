import BlobTree.Proofs.Path.Below

/-!
# BlobTree.Proofs.Path.Embedding

The paths of a tree among the keys of a flat store. Whatever the root is called, every path has a
key of its own from which it is found again, and the keys that begin as the listing of a directory
does are those whose paths go on from the directory, however they go on.

* `pathOf?_keyOf`: a path is found again from its key.
* `listingPrefix_isPrefixOf`: the keys listed below a directory are those of the paths below it.
* `pathOf?_listingPrefix_append`, `keyOf_asContainer_append`: from a listed key to its path, and
  back.
* `paths_embedded`: all of it, for the root at any directory.
* `pathOf?_eq_none_iff`, `goesOn_key_append`: which keys have no path, and whose path begins as
  paths do; `keys_refused`: what that comes to for keys outside the root.
-/

namespace BlobTree
namespace Root

variable {r : Root} {dir : Name}

theorem listingPrefix_root : r.listingPrefix Path.root = r.keyOf [Path.separator] := rfl

theorem listingPrefix_isPrefixOf {p q : Name} (hp : Path.isDirectory p) (hq : Path.isValid q) :
    (r.listingPrefix p).isPrefixOf (r.keyOf q) = Path.isBelow p q := by
  rcases Path.isDirectory_iff.mp hp with rfl | hp
  · by_cases hkey : r.key = []
    · rw [listingPrefix_root, keyOf_of_key_eq_nil hkey, Path.isBelow_root hq]
      rfl
    · rw [listingPrefix_root, keyOf_of_key_ne_nil hkey, keyOf_of_key_ne_nil hkey, Bool.eq_iff_iff,
        List.isPrefixOf_iff_prefix, List.prefix_append_right_inj, ← List.isPrefixOf_iff_prefix]
      rfl
  · rw [listingPrefix_isPrefixOf_keyOf hp hq, Path.isBelow, Path.asContainer_of_isValid hp]

/-- The path of a key goes on from a directory as the key does from the start of its listing. -/
theorem pathUnder_listingPrefix_append (hdir : Path.isDirectory dir) (rest : Name) :
    r.pathUnder (r.listingPrefix dir ++ rest) = Path.asContainer dir ++ rest := by
  rcases Path.isDirectory_iff.mp hdir with rfl | hp
  · by_cases hkey : r.key = []
    · rw [pathUnder, if_pos hkey, listingPrefix_root, keyOf_of_key_eq_nil hkey]
      rfl
    · rw [pathUnder, if_neg hkey, listingPrefix_root, keyOf_of_key_ne_nil hkey, List.append_assoc,
        List.drop_left]
      rfl
  · have hstart : (r.listingPrefix dir).isPrefixOf (r.listingPrefix dir ++ rest) :=
      List.isPrefixOf_iff_prefix.mpr (List.prefix_append _ _)
    obtain ⟨⟨s, hs⟩, hkey⟩ := pathUnder_listed hp hstart
    rw [← hs, List.append_assoc, keyOf_append hp, ← List.append_assoc,
      ← listingPrefix_of_isValid hp] at hkey
    rw [← hs, List.append_cancel_left hkey, Path.asContainer_of_isValid hp]

theorem pathOf?_listingPrefix_append (hdir : Path.isDirectory dir) (rest : Name) :
    r.pathOf? (r.listingPrefix dir ++ rest) = some (Path.asContainer dir ++ rest) := by
  have hstart : (r.listingPrefix dir).isPrefixOf (r.listingPrefix dir ++ rest) :=
    List.isPrefixOf_iff_prefix.mpr (List.prefix_append _ _)
  rw [pathOf?_listed (key_isPrefixOf_listingPrefix dir) hstart, pathUnder_listingPrefix_append hdir]

/-- Below a path, and not only at paths, the key goes on as the text does. -/
theorem keyOf_asContainer_append {p : Name} (hp : Path.isValid p) (rest : Name) :
    r.keyOf (Path.asContainer p ++ rest) = r.listingPrefix p ++ rest := by
  rw [Path.asContainer_of_isValid hp, List.append_assoc, keyOf_append hp, ← List.append_assoc,
    ← listingPrefix_of_isValid hp]

/-- The root stands for the start of its own listing. -/
theorem pathOf?_keyOf {p : Name} (hp : Path.isDirectory p) : r.pathOf? (r.keyOf p) = some p := by
  rcases Path.isDirectory_iff.mp hp with rfl | hvalid
  · have hroot : Path.isDirectory Path.root := rfl
    have hpath := pathOf?_listingPrefix_append (r := r) hroot []
    rw [List.append_nil, List.append_nil] at hpath
    exact hpath
  · rw [pathOf?_eq (key_isPrefixOf_keyOf p), pathUnder_keyOf hvalid]

theorem head?_dropLeading (s : Name) : (Path.dropLeading s).head? ≠ some Path.separator := by
  have hhead := List.head?_dropWhile_not (fun c => decide (c = Path.separator)) s
  intro h
  rw [Path.dropLeading] at h
  rw [h] at hhead
  simp at hhead

theorem exists_dropLeading (s : Name) :
    ∃ before, s = before ++ Path.dropLeading s ∧ ∀ c ∈ before, c = Path.separator := by
  refine ⟨s.takeWhile (· = Path.separator), List.takeWhile_append_dropWhile.symm, fun c hc => ?_⟩
  exact of_decide_eq_true (List.all_eq_true.mp List.all_takeWhile c hc)

theorem exists_dropTrailing (s : Name) :
    ∃ after, s = Path.dropTrailing s ++ after ∧ ∀ c ∈ after, c = Path.separator := by
  obtain ⟨before, hsplit, hbefore⟩ := exists_dropLeading s.reverse
  refine ⟨before.reverse, ?_, fun c hc => hbefore c (List.mem_reverse.mp hc)⟩
  have hreverse := congrArg List.reverse hsplit
  rwa [List.reverse_reverse, List.reverse_append] at hreverse

/-- The root's key is the root directory without the separators before and after it. -/
theorem exists_trimmed (rootDirectory : Name) :
    ∃ before after, rootDirectory = before ++ (ofDir rootDirectory).key ++ after ∧
      ∀ c ∈ before ++ after, c = Path.separator := by
  obtain ⟨after, htrailing, hafter⟩ := exists_dropTrailing rootDirectory
  obtain ⟨before, hleading, hbefore⟩ := exists_dropLeading (Path.dropTrailing rootDirectory)
  refine ⟨before, after, ?_, fun c hc => ?_⟩
  · conv => lhs; rw [htrailing, hleading]
    rfl
  · exact (List.mem_append.mp hc).elim (hbefore c) (hafter c)

theorem getLast?_key (rootDirectory : Name) :
    (ofDir rootDirectory).key.getLast? ≠ some Path.separator := by
  obtain ⟨before, hbefore⟩ : (ofDir rootDirectory).key <:+ Path.dropTrailing rootDirectory :=
    List.dropWhile_suffix _
  intro h
  refine head?_dropLeading rootDirectory.reverse ?_
  rw [Path.dropLeading, ← List.getLast?_reverse, ← Path.dropTrailing, ← hbefore,
    List.getLast?_append, h]
  rfl

/-- The keys of paths lie under the root's key, if it has one. -/
theorem keyOf_eq {p : Name} (hp : Path.isDirectory p) :
    r.keyOf p = if r.key = [] then p.tail else r.key ++ p := by
  split
  · next hkey =>
    rw [keyOf_of_key_eq_nil hkey]
    rcases Path.isDirectory_iff.mp hp with rfl | hvalid
    · rfl
    · exact Path.dropLeading_of_isValid hvalid
  · next hkey => exact keyOf_of_key_ne_nil hkey p

/-- **Paths are embedded.** Under the root at any directory, the keys of paths lie under that
directory without the separators around it, if there is more to it than these. A path or the root is
found again from its key, so that no two share one, and no key begins with a separator. The key of a
path begins as the listing of another does exactly if the path lies below that other. And every key
that begins so, whatever follows, has a path, which leads back to it. -/
theorem paths_embedded (rootDirectory : Name) :
    let r := ofDir rootDirectory
    ((∃ before after, rootDirectory = before ++ r.key ++ after ∧
        ∀ c ∈ before ++ after, c = Path.separator) ∧
      r.key.head? ≠ some Path.separator ∧ r.key.getLast? ≠ some Path.separator ∧
      ∀ p, Path.isDirectory p → r.keyOf p = if r.key = [] then p.tail else r.key ++ p) ∧
    (∀ p, Path.isDirectory p → r.pathOf? (r.keyOf p) = some p) ∧
    (∀ p q, Path.isDirectory p → Path.isDirectory q → r.keyOf p = r.keyOf q → p = q) ∧
    (∀ p, (r.keyOf p).head? ≠ some Path.separator) ∧
    (∀ p q, Path.isValid p → Path.isValid q →
      ((r.listingPrefix p).isPrefixOf (r.keyOf q) ↔ (p ++ [Path.separator]).isPrefixOf q)) ∧
    ∀ p k, Path.isValid p → (r.listingPrefix p).isPrefixOf k →
      ∃ rest, k = r.listingPrefix p ++ rest ∧
        r.pathOf? k = some (p ++ Path.separator :: rest) ∧
        r.keyOf (p ++ Path.separator :: rest) = k := by
  intro r
  refine ⟨⟨exists_trimmed rootDirectory, head?_dropLeading _, getLast?_key rootDirectory,
    fun _ => keyOf_eq⟩, fun p hp => pathOf?_keyOf hp, fun p q hp hq h => ?_,
    fun p => head?_dropLeading _, fun p q hp hq => ?_, ?_⟩
  · have hsame := pathOf?_keyOf (r := r) hp
    rw [h, pathOf?_keyOf hq] at hsame
    exact (Option.some.inj hsame).symm
  · rw [listingPrefix_isPrefixOf_keyOf hp hq]
  · intro p k hp h
    obtain ⟨rest, rfl⟩ := List.isPrefixOf_iff_prefix.mp h
    have hcontainer : Path.asContainer p ++ rest = p ++ Path.separator :: rest := by
      rw [Path.asContainer_of_isValid hp, List.append_assoc, List.singleton_append]
    refine ⟨rest, rfl, ?_, ?_⟩
    · rw [← hcontainer]
      exact pathOf?_listingPrefix_append (Path.isDirectory_iff.mpr (.inr hp)) rest
    · rw [← hcontainer]
      exact keyOf_asContainer_append hp rest

/-- A root with separators around and within it, and a key below a path that goes on with two
separators and ends in one. -/
theorem paths_embedded_doubled :
    let r := ofDir "//data//blobs//".toList
    let p := "/a.b/c".toList
    let q := "/a.b/c/d".toList
    let k := "data//blobs/a.b/c///e/".toList
    Path.isValid p ∧ Path.isValid q ∧ r.keyOf p = "data//blobs".toList ++ p ∧
    r.pathOf? (r.keyOf Path.root) = some Path.root ∧
    (r.listingPrefix p).isPrefixOf (r.keyOf q) ∧ ¬(r.listingPrefix q).isPrefixOf (r.keyOf p) ∧
    (r.listingPrefix p).isPrefixOf k ∧ r.keyOf "/a.b/c///e/".toList = k ∧
    r.pathOf? k = some "/a.b/c///e/".toList := by
  intro r p q k
  have hp : Path.isValid p := by decide +kernel
  have hq : Path.isValid q := by decide +kernel
  have hk : (r.listingPrefix p).isPrefixOf k := by decide +kernel
  obtain ⟨⟨-, -, -, hkeys⟩, hpaths, -, -, hbelow, hlisted⟩ :=
    paths_embedded "//data//blobs//".toList
  obtain ⟨rest, hrest, hpath, hkey⟩ := hlisted p k hp hk
  have hgoes : rest = "//e/".toList := by
    have hsplit : k = r.listingPrefix p ++ "//e/".toList := by decide +kernel
    exact List.append_cancel_left (hrest.symm.trans hsplit)
  rw [hgoes] at hpath hkey
  refine ⟨hp, hq, hkeys p (Path.isDirectory_iff.mpr (.inr hp)), hpaths _ rfl,
    (hbelow p q hp hq).mpr (by decide +kernel), ?_, hk, hkey, hpath⟩
  intro h
  exact absurd ((hbelow q p hq hp).mp h) (by decide +kernel)

section Outside

variable {k p : Name}

theorem pathOf?_eq_some_iff (h : r.key ≠ []) : r.pathOf? k = some p ↔ k = r.key ++ p := by
  rw [pathOf?, if_neg h]
  constructor
  · intro hpath
    split at hpath
    · next hbegins =>
      obtain ⟨rest, rfl⟩ := List.isPrefixOf_iff_prefix.mp hbegins
      rw [← Option.some.inj hpath, List.drop_left]
    · cases hpath
  · rintro rfl
    rw [if_pos (List.isPrefixOf_iff_prefix.mpr (List.prefix_append _ _)), List.drop_left]

theorem pathOf?_eq_none_iff (h : r.key ≠ []) : r.pathOf? k = none ↔ ¬r.key <+: k := by
  rw [Option.eq_none_iff_forall_ne_some]
  simp only [ne_eq, pathOf?_eq_some_iff h]
  exact ⟨fun hnone ⟨rest, hrest⟩ => hnone rest hrest.symm,
    fun hnone rest hrest => hnone ⟨rest, hrest.symm⟩⟩

/-- The root's key and a path begin as the root does where the path is empty or begins with a
separator. -/
theorem goesOn_key_append :
    Path.goesOn r.key (r.key ++ p) ↔ p = [] ∨ p.head? = some Path.separator := by
  rw [Path.goesOn_iff, List.append_right_eq_self, List.prefix_append_right_inj]
  cases p <;> simp [eq_comm]

/-- **Keys outside the root.** Under a root with a name, a key is refused, and reported as outside
the root, exactly if it does not begin with the text of the root's key; any other key is the root's
key and its path. So the path is empty or begins with a separator for the root's own key and the keys
under it, and for no other key that has one: those go on from the root's key with another
character. -/
theorem keys_refused {rootDirectory : Name} (h : (ofDir rootDirectory).key ≠ []) (k : Name) :
    let r := ofDir rootDirectory
    (r.pathOf? k = none ↔ ¬r.key <+: k) ∧
    (r.pathOf? k = none → Listing.pathsOf r [k] = .error (.outsideRoot k r.key)) ∧
    (∀ p, r.pathOf? k = some p ↔ k = r.key ++ p) ∧
    (Path.goesOn r.key k ↔
      ∃ p, r.pathOf? k = some p ∧ (p = [] ∨ p.head? = some Path.separator)) ∧
    (¬Path.goesOn r.key k ∧ r.pathOf? k ≠ none ↔
      ∃ c rest, c ≠ Path.separator ∧ k = r.key ++ c :: rest) := by
  intro r
  refine ⟨pathOf?_eq_none_iff h, fun hnone => ?_, fun p => pathOf?_eq_some_iff h, ?_, ?_⟩
  · rw [Listing.pathsOf, hnone]
  · constructor
    · intro hon
      have hbegins : r.key <+: k := by
        rcases Path.goesOn_iff.mp hon with rfl | hunder
        · exact List.prefix_rfl
        · exact (List.prefix_append _ _).trans hunder
      obtain ⟨p, rfl⟩ := hbegins
      exact ⟨p, (pathOf?_eq_some_iff h).mpr rfl, goesOn_key_append.mp hon⟩
    · rintro ⟨p, hpath, hp⟩
      rw [(pathOf?_eq_some_iff h).mp hpath]
      exact goesOn_key_append.mpr hp
  · constructor
    · rintro ⟨hon, hsome⟩
      obtain ⟨p, hpath⟩ := Option.ne_none_iff_exists'.mp hsome
      have hk := (pathOf?_eq_some_iff h).mp hpath
      rw [hk, goesOn_key_append] at hon
      cases p with
      | nil => exact absurd (.inl rfl) hon
      | cons c rest => exact ⟨c, rest, fun hc => hon (.inr (by rw [hc]; rfl)), hk⟩
    · rintro ⟨c, rest, hc, rfl⟩
      rw [goesOn_key_append, (pathOf?_eq_some_iff h).mpr rfl]
      simp [hc]

/-- One key that only begins as the root is called, and one that does not. -/
theorem keys_refused_neighbour :
    let r := ofDir "/data/".toList
    r.key ≠ [] ∧ r.pathOf? "data-old/x".toList = some "-old/x".toList ∧
    ¬Path.goesOn r.key "data-old/x".toList ∧ r.pathOf? "dat/x".toList = none ∧
    Listing.pathsOf r ["dat/x".toList] = .error (.outsideRoot "dat/x".toList "data".toList) := by
  intro r
  have hne : r.key ≠ [] := by decide
  obtain ⟨-, -, hpath, -, houtside⟩ := keys_refused hne "data-old/x".toList
  obtain ⟨hrefused, hreported, -⟩ := keys_refused hne "dat/x".toList
  have hnone : r.pathOf? "dat/x".toList = none := hrefused.mpr (by decide)
  exact ⟨hne, (hpath _).mpr (by decide),
    (houtside.mpr ⟨'-', "old/x".toList, by decide, by decide⟩).1, hnone, hreported hnone⟩

/-- A key that is neither the root's nor under the root is not refused. -/
theorem neighbour_accepted :
    let r := ofDir "root".toList
    r.key = "root".toList ∧ ¬Path.goesOn r.key "rootx/b".toList ∧
    r.pathOf? "rootx/b".toList = some "x/b".toList := by
  decide

end Outside

end Root
end BlobTree
