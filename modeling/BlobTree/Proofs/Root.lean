import BlobTree.Listing

/-!
# BlobTree.Proofs.Root

Paths and the keys they stand for. A root directory has no separator at its end, so the key of a
path is the path under the root's own key, or without its first separator when there is no such key.

* `keyOf_injective`, `pathUnder_keyOf`: a path is found again from its key.
* `listingPrefix_isPrefixOf_keyOf`: the keys below a path are those of the paths below it.
* `pathUnder_listed`, `listed_path`: a key listed below a path is found again from its path.
* `pathsOf_listed`: no key under a listing's start lies outside the root; `pathsOf_error`: a key
  that does is named by the failure.
-/

namespace BlobTree
namespace Path

theorem ofSegments_eq (segs : List Name) (hne : segs ≠ []) :
    ofSegments segs = separator :: [separator].intercalate segs := by
  induction segs with
  | nil => exact absurd rfl hne
  | cons s rest ih =>
    cases rest with
    | nil => simp [ofSegments]
    | cons t rest =>
      rw [List.intercalate_cons_of_ne_nil (by simp)]
      have hrest := ih (by simp)
      simp only [ofSegments, List.flatMap_cons, List.cons_append] at hrest ⊢
      rw [hrest]
      simp

theorem ofSegments_segments {p : Name} (h : p.head? = some separator) :
    ofSegments (segments p) = p := by
  cases p with
  | nil => cases h
  | cons c q =>
    obtain rfl : c = separator := by simpa using h
    have hseg : segments (separator :: q) = q.splitOn separator := by
      rw [segments, List.splitOn_cons_eq_if_modifyHead]
      simp
    rw [hseg, ofSegments_eq _ (List.splitOn_ne_nil _ _), List.intercalate_splitOn]

theorem exists_segments {p : Name} (h : isValid p) :
    ∃ segs, segs ≠ [] ∧ (∀ s ∈ segs, isSegment s) ∧ p = ofSegments segs := by
  simp only [isValid, Bool.and_eq_true, decide_eq_true_eq, Bool.not_eq_true',
    List.isEmpty_eq_false_iff, List.all_eq_true] at h
  exact ⟨segments p, h.1.2, h.2, (ofSegments_segments h.1.1).symm⟩

theorem exists_char_of_isSegment {s : Name} (h : isSegment s) :
    s ≠ [] ∧ ∀ c ∈ s, c ≠ separator := by
  refine ⟨?_, fun c hc => ?_⟩
  · rintro rfl
    cases h
  · rintro rfl
    exact separator_notMem_of_isSegment h hc

theorem exists_body {p : Name} (h : isValid p) :
    ∃ c q, p = separator :: c :: q ∧ c ≠ separator := by
  obtain ⟨segs, hne, hseg, rfl⟩ := exists_segments h
  cases segs with
  | nil => exact absurd rfl hne
  | cons s rest =>
    obtain ⟨hs, hchars⟩ := exists_char_of_isSegment (hseg s List.mem_cons_self)
    cases s with
    | nil => exact absurd rfl hs
    | cons c s => exact ⟨c, s ++ ofSegments rest, rfl, hchars c List.mem_cons_self⟩

theorem getLast_ne_separator {p : Name} (h : isValid p) : p.getLast? ≠ some separator := by
  obtain ⟨segs, hne, hseg, rfl⟩ := exists_segments h
  obtain ⟨init, s, rfl⟩ : ∃ init s, segs = init ++ [s] :=
    ⟨_, _, (List.dropLast_concat_getLast hne).symm⟩
  obtain ⟨hs, hchars⟩ := exists_char_of_isSegment (hseg s (by simp))
  have hlast : (ofSegments (init ++ [s])).getLast? = some (s.getLast hs) := by
    simp [ofSegments, List.getLast?_append, List.getLast?_cons, List.getLast?_eq_some_getLast hs]
  rw [hlast]
  intro heq
  exact hchars _ (List.getLast_mem hs) (by simpa using heq)

theorem asContainer_of_isValid {p : Name} (h : isValid p) : asContainer p = p ++ [separator] := by
  obtain ⟨c, q, hp, -⟩ := exists_body h
  have hne : p ≠ [] := by simp [hp]
  simp [asContainer, hne, getLast_ne_separator h]

theorem dropLeading_append {p : Name} (h : isValid p) (q : Name) :
    dropLeading (p ++ q) = p.tail ++ q := by
  obtain ⟨c, body, rfl, hc⟩ := exists_body h
  simp [dropLeading, hc]

theorem dropLeading_of_isValid {p : Name} (h : isValid p) : dropLeading p = p.tail := by
  have hdrop := dropLeading_append h []
  rwa [List.append_nil, List.append_nil] at hdrop

theorem cons_tail {p : Name} (h : isValid p) : separator :: p.tail = p := by
  obtain ⟨c, q, rfl, -⟩ := exists_body h
  rfl

end Path

namespace Root

variable (r : Root)

/-- The path of a key that begins as the root's keys do. -/
def pathUnder (k : Name) : Name :=
  if r.key = [] then Path.separator :: k else k.drop r.key.length

variable {r}

theorem keyOf_of_key_eq_nil (h : r.key = []) (p : Name) : r.keyOf p = Path.dropLeading p := by
  have hempty : (r.dir.dropWhile (· = Path.separator)).isEmpty := List.isEmpty_iff.mpr h
  rw [keyOf, Path.dropLeading, List.dropWhile_append, if_pos hempty]
  rfl

theorem keyOf_of_key_ne_nil (h : r.key ≠ []) (p : Name) : r.keyOf p = r.key ++ p := by
  have hempty : ¬(r.dir.dropWhile (· = Path.separator)).isEmpty := fun he =>
    h (List.isEmpty_iff.mp he)
  rw [keyOf, Path.dropLeading, List.dropWhile_append, if_neg hempty]
  rfl

theorem pathUnder_keyOf {p : Name} (hp : Path.isValid p) : r.pathUnder (r.keyOf p) = p := by
  by_cases h : r.key = []
  · rw [pathUnder, if_pos h, keyOf_of_key_eq_nil h, Path.dropLeading_of_isValid hp,
      Path.cons_tail hp]
  · rw [pathUnder, if_neg h, keyOf_of_key_ne_nil h, List.drop_left]

theorem keyOf_injective {p q : Name} (hp : Path.isValid p) (hq : Path.isValid q)
    (h : r.keyOf p = r.keyOf q) : p = q := by
  rw [← pathUnder_keyOf (r := r) hp, h, pathUnder_keyOf hq]

theorem key_isPrefixOf_keyOf (p : Name) : r.key.isPrefixOf (r.keyOf p) := by
  by_cases h : r.key = []
  · simp [h]
  · simp [keyOf_of_key_ne_nil h]

theorem key_isPrefixOf_listingPrefix (path : Name) : r.key.isPrefixOf (r.listingPrefix path) :=
  key_isPrefixOf_keyOf _

theorem keyOf_append {p : Name} (hp : Path.isValid p) (q : Name) :
    r.keyOf (p ++ q) = r.keyOf p ++ q := by
  by_cases h : r.key = []
  · rw [keyOf_of_key_eq_nil h, keyOf_of_key_eq_nil h, Path.dropLeading_append hp,
      Path.dropLeading_of_isValid hp]
  · rw [keyOf_of_key_ne_nil h, keyOf_of_key_ne_nil h, List.append_assoc]

theorem listingPrefix_of_isValid {p : Name} (hp : Path.isValid p) :
    r.listingPrefix p = r.keyOf p ++ [Path.separator] := by
  obtain ⟨c, q, hcons, -⟩ := Path.exists_body hp
  have hne : p ≠ [] := by simp [hcons]
  rw [listingPrefix, if_neg hne, Path.asContainer_of_isValid hp, keyOf_append hp]

/-- A key lies below a path exactly when its own path does. -/
theorem listingPrefix_isPrefixOf_keyOf {p q : Name} (hp : Path.isValid p) (hq : Path.isValid q) :
    (r.listingPrefix p).isPrefixOf (r.keyOf q) = (p ++ [Path.separator]).isPrefixOf q := by
  rw [listingPrefix_of_isValid hp, ← keyOf_append hp]
  by_cases h : r.key = []
  · rw [keyOf_of_key_eq_nil h, keyOf_of_key_eq_nil h, Path.dropLeading_append hp,
      Path.dropLeading_of_isValid hq]
    conv => rhs; rw [← Path.cons_tail hp, ← Path.cons_tail hq]
    simp
  · rw [keyOf_of_key_ne_nil h, keyOf_of_key_ne_nil h, Bool.eq_iff_iff,
      List.isPrefixOf_iff_prefix, List.isPrefixOf_iff_prefix, List.prefix_append_right_inj]

/-- A key listed below a path is the key of a path below it, valid or not. -/
theorem pathUnder_listed {p k : Name} (hp : Path.isValid p)
    (h : (r.listingPrefix p).isPrefixOf k) :
    p ++ [Path.separator] <+: r.pathUnder k ∧ r.keyOf (r.pathUnder k) = k := by
  rw [listingPrefix_of_isValid hp, List.isPrefixOf_iff_prefix] at h
  obtain ⟨rest, rfl⟩ := h
  have hpath : r.pathUnder (r.keyOf p ++ [Path.separator] ++ rest) =
      p ++ [Path.separator] ++ rest := by
    by_cases hkey : r.key = []
    · rw [pathUnder, if_pos hkey, keyOf_of_key_eq_nil hkey, Path.dropLeading_of_isValid hp]
      conv => rhs; rw [← Path.cons_tail hp]
      rfl
    · rw [pathUnder, if_neg hkey, keyOf_of_key_ne_nil hkey, List.append_assoc, List.append_assoc,
        List.drop_left, List.append_assoc]
  rw [hpath]
  refine ⟨List.prefix_append _ _, ?_⟩
  rw [List.append_assoc, keyOf_append hp, List.append_assoc]

theorem pathOf?_eq {k : Name} (h : r.key.isPrefixOf k) : r.pathOf? k = some (r.pathUnder k) := by
  by_cases hk : r.key = []
  · simp [pathOf?, pathUnder, hk]
  · simp [pathOf?, pathUnder, hk, h]

theorem pathOf?_listed {start k : Name} (hstart : r.key.isPrefixOf start)
    (h : start.isPrefixOf k) : r.pathOf? k = some (r.pathUnder k) := by
  rw [List.isPrefixOf_iff_prefix] at hstart h
  exact pathOf?_eq (List.isPrefixOf_iff_prefix.mpr (hstart.trans h))

theorem paths_listed {start : Name} (hstart : r.key.isPrefixOf start) {ks : List Name}
    (h : ∀ k ∈ ks, start.isPrefixOf k) : (ks.map r.pathUnder).map some = ks.map r.pathOf? := by
  rw [List.map_map]
  exact List.map_congr_left fun k hk => (pathOf?_listed hstart (h k hk)).symm

/-- The path of a key that is listed below a path is below it, and leads back to the key. -/
theorem listed_path {p q k : Name} (hp : Path.isValid p) (h : (r.listingPrefix p).isPrefixOf k)
    (hpath : r.pathOf? k = some q) : p ++ [Path.separator] <+: q ∧ r.keyOf q = k := by
  rw [pathOf?_listed (key_isPrefixOf_listingPrefix p) h] at hpath
  obtain rfl : r.pathUnder k = q := Option.some.inj hpath
  exact pathUnder_listed hp h

theorem pathsOf_listed {start : Name} (hstart : r.key.isPrefixOf start) {ks : List Name}
    (h : ∀ k ∈ ks, start.isPrefixOf k) : Listing.pathsOf r ks = .ok (ks.map r.pathUnder) := by
  induction ks with
  | nil => rfl
  | cons k rest ih =>
    have hrest := ih fun k' hk' => h k' (List.mem_cons_of_mem _ hk')
    rw [Listing.pathsOf, pathOf?_listed hstart (h k List.mem_cons_self)]
    simp only [hrest, Except.map, List.map_cons]

theorem pathsOf_error {keys : List Name} {f : Failure}
    (h : Listing.pathsOf r keys = .error f) : ∃ k, f = .outsideRoot k r.key := by
  induction keys with
  | nil => cases h
  | cons k keys ih =>
    rw [Listing.pathsOf] at h
    cases hk : r.pathOf? k with
    | none =>
      rw [hk] at h
      cases h
      exact ⟨k, rfl⟩
    | some path =>
      cases hkeys : Listing.pathsOf r keys with
      | error f' =>
        simp only [hk, hkeys, Except.map, Except.error.injEq] at h
        exact ih (hkeys.trans (by rw [h]))
      | ok rest => simp [hk, hkeys, Except.map] at h

end Root
end BlobTree
