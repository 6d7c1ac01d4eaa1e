import Mathlib.Data.List.Lex
import BlobTree.Proofs.Path.Below
import BlobTree.Text.Units

/-!
# BlobTree.Proofs.Path.Order

Paths in the order of their names: name by name, and a path before those below it. The names of a
child are those of its directory and one name more, so all that is at or below one child comes
before all that is at or below a later one.

* `names_child`, `exists_names_of_isBelow`: the names of a child and of a path below a directory.
* `isBelow_trans`, `not_isBelow_self`, `not_isBelow_child`: no path is between a directory and its
  child.
* `before_of_child`: the order of two children is that of everything there.
-/

namespace BlobTree

theorem Units.lt_of_append_left {p s s' : Name} (h : Lt (p ++ s) (p ++ s')) : Lt s s' := by
  have happend : ∀ {a b}, Lt a b → Lt (p ++ a) (p ++ b) := by
    intro a b hlt
    rw [Lt, ofName, List.flatMap_append, ofName, List.flatMap_append]
    exact List.append_left_lt hlt
  rcases trichotomy s s' with hlt | rfl | hgt
  · exact hlt
  · exact absurd h (lt_irrefl _)
  · exact absurd h (lt_asymm (happend hgt))

/-- Sorting leaves names in strict order, unless one comes twice. -/
theorem Units.pairwise_mergeSort {l : List Name} (h : l.Nodup) : (l.mergeSort le).Pairwise Lt := by
  have hsorted := List.pairwise_mergeSort le_trans le_total l
  have hnodup : (l.mergeSort le).Nodup := (List.mergeSort_perm l le).nodup_iff.mpr h
  refine (hsorted.and hnodup).imp fun {a b} ⟨hab, hne⟩ => ?_
  rcases trichotomy a b with hlt | rfl | hgt
  · exact hlt
  · exact absurd rfl hne
  · exact absurd hgt (le_iff.mp hab)

namespace Path

/-- The names on the way from the root to a path. -/
def names (p : Name) : List Name :=
  if p = root then [] else segments p

/-- Name by name, and a path before those below it. -/
def Before (p q : Name) : Prop :=
  List.Lex Units.Lt (names p) (names q)

theorem not_before_self (p : Name) : ¬Before p p := by
  have hirrefl : ∀ l : List Name, ¬List.Lex Units.Lt l l := by
    intro l
    induction l with
    | nil => rintro ⟨⟩
    | cons s rest ih =>
      rintro (_ | hlt | hrest)
      · exact Units.lt_irrefl s hlt
      · exact ih hrest
  exact hirrefl _

theorem ne_root_of_isValid {p : Name} (h : isValid p) : p ≠ root := by
  obtain ⟨c, q, rfl, -⟩ := exists_body h
  rintro ⟨⟩

theorem names_of_isValid {p : Name} (h : isValid p) : names p = segments p :=
  if_neg (ne_root_of_isValid h)

theorem names_ofSegments {segs : List Name} (hne : segs ≠ []) (h : ∀ s ∈ segs, isSegment s) :
    names (ofSegments segs) = segs := by
  rw [names_of_isValid (isValid_ofSegments hne h)]
  exact segments_ofSegments fun s hs => separator_notMem_of_isSegment (h s hs)

theorem isValid_of_isChild {dir c : Name} (hdir : isDirectory dir) (hc : IsChild dir c) :
    isValid c := by
  obtain ⟨s, hs, rfl⟩ := hc
  exact isValid_child hdir hs

theorem names_child {dir s : Name} (hdir : isDirectory dir) (hs : isSegment s) :
    names (asContainer dir ++ s) = names dir ++ [s] := by
  rcases isDirectory_iff.mp hdir with rfl | hdir
  · have hone : asContainer root ++ s = ofSegments [s] := by simp [ofSegments]
    rw [hone, names_ofSegments (by simp) (by simpa using hs)]
    rfl
  · obtain ⟨segs, hne, hseg, rfl⟩ := exists_segments hdir
    have hmore : asContainer (ofSegments segs) ++ s = ofSegments (segs ++ [s]) := by
      rw [asContainer_of_isValid hdir]
      simp [ofSegments]
    rw [hmore, names_ofSegments hne hseg, names_ofSegments (by simp)]
    intro t ht
    rcases List.mem_append.mp ht with ht | ht
    · exact hseg t ht
    · rw [List.mem_singleton.mp ht]
      exact hs

/-- The names of a path below a directory go on from those of the directory. -/
theorem exists_names_of_isBelow {dir p : Name} (hdir : isDirectory dir) (hp : isValid p)
    (h : isBelow dir p) : ∃ s rest, names p = names dir ++ s :: rest := by
  obtain ⟨segs, hne, hseg, rfl⟩ := exists_segments hp
  rw [names_ofSegments hne hseg]
  rcases isDirectory_iff.mp hdir with rfl | hdir
  · obtain ⟨s, rest, rfl⟩ := List.exists_cons_of_ne_nil hne
    exact ⟨s, rest, rfl⟩
  · obtain ⟨dirs, hdne, hdseg, rfl⟩ := exists_segments hdir
    obtain ⟨r, hr⟩ := isBelow_iff.mp h
    rw [asContainer_of_isValid hdir, List.append_assoc, List.singleton_append] at hr
    have hsplit := splitOn_ofSegments (fun s hs => separator_notMem_of_isSegment (hseg s hs)) []
      (by simp)
    have hdsplit := splitOn_ofSegments (fun s hs => separator_notMem_of_isSegment (hdseg s hs)) []
      (by simp)
    rw [List.nil_append] at hsplit hdsplit
    have hboth : ([] :: segs : List Name) = [] :: dirs ++ r.splitOn separator := by
      rw [← hsplit, ← hr, ← hdsplit, List.splitOn, List.splitOnP_append_cons _ _ (by simp)]
      rfl
    obtain ⟨s, rest, hrest⟩ := List.exists_cons_of_ne_nil (List.splitOn_ne_nil separator r)
    refine ⟨s, rest, ?_⟩
    rw [names_ofSegments hdne hdseg, ← hrest]
    exact (List.cons.inj hboth).2

theorem length_names_of_isChild {dir c : Name} (hdir : isDirectory dir) (hc : IsChild dir c) :
    (names c).length = (names dir).length + 1 := by
  obtain ⟨s, hs, rfl⟩ := hc
  rw [names_child hdir hs, List.length_append, List.length_singleton]

theorem length_names_lt {dir p : Name} (hdir : isDirectory dir) (hp : isValid p)
    (h : isBelow dir p) : (names dir).length < (names p).length := by
  obtain ⟨s, rest, hnames⟩ := exists_names_of_isBelow hdir hp h
  rw [hnames, List.length_append, List.length_cons]
  omega

theorem isBelow_trans {a b c : Name} (hb : isValid b) (hab : isBelow a b) (hbc : isBelow b c) :
    isBelow a c := by
  rw [isBelow_iff] at hab hbc ⊢
  rw [asContainer_of_isValid hb] at hbc
  exact hab.trans ((List.prefix_append b _).trans hbc)

theorem not_isBelow_self {p : Name} (h : isValid p) : ¬isBelow p p := by
  intro hself
  have hlength := (isBelow_iff.mp hself).length_le
  rw [asContainer_of_isValid h, List.length_append, List.length_singleton] at hlength
  omega

theorem isBelow_of_isChild {dir c : Name} (hc : IsChild dir c) : isBelow dir c := by
  obtain ⟨s, -, rfl⟩ := hc
  exact isBelow_iff.mpr (List.prefix_append _ _)

theorem not_isBelow_child {dir a c : Name} (hdir : isDirectory dir) (ha : isValid a)
    (hbelow : isBelow dir a) (hc : IsChild dir c) : ¬isBelow a c := by
  intro hac
  have hcv := isValid_of_isChild hdir hc
  obtain ⟨hchild, hon⟩ := Listing.childOf_of_isBelow hdir ha hbelow
  have hbetween : isBelow (Listing.childOf (asContainer dir) a) c := by
    rcases hon with heq | hon
    · rwa [heq]
    · exact isBelow_trans ha hon hac
  have hsame := (Listing.childOf_of_isChild hdir hchild (.inr hbetween)).2
  rw [(Listing.childOf_of_isChild hdir hc (.inl rfl)).2] at hsame
  rw [← hsame] at hbetween
  exact not_isBelow_self hcv hbetween

theorem before_of_isBelow {p q : Name} (hp : isValid p) (hq : isValid q) (h : isBelow p q) :
    Before p q := by
  obtain ⟨s, rest, hnames⟩ := exists_names_of_isBelow (isDirectory_iff.mpr (.inr hp)) hq h
  rw [Before, hnames]
  simpa using List.Lex.append_left Units.Lt (List.Lex.nil (a := s) (l := rest)) (names p)

/-- What is at a child or below it: the names go on from the child's. -/
theorem exists_names_of_child {dir s p : Name} (hdir : isDirectory dir) (hs : isSegment s)
    (hp : isValid p) (h : p = asContainer dir ++ s ∨ isBelow (asContainer dir ++ s) p) :
    ∃ rest, names p = names dir ++ s :: rest := by
  rcases h with rfl | h
  · exact ⟨[], names_child hdir hs⟩
  · have hchild := isDirectory_iff.mpr (.inr (isValid_child hdir hs))
    obtain ⟨t, rest, hnames⟩ := exists_names_of_isBelow hchild hp h
    exact ⟨t :: rest, by rw [hnames, names_child hdir hs]; simp⟩

theorem before_of_child {dir c c' p p' : Name} (hdir : isDirectory dir) (hc : IsChild dir c)
    (hc' : IsChild dir c') (hlt : Units.Lt c c') (hp : isValid p) (hp' : isValid p')
    (h : p = c ∨ isBelow c p) (h' : p' = c' ∨ isBelow c' p') : Before p p' := by
  obtain ⟨s, hs, rfl⟩ := hc
  obtain ⟨s', hs', rfl⟩ := hc'
  obtain ⟨rest, hnames⟩ := exists_names_of_child hdir hs hp h
  obtain ⟨rest', hnames'⟩ := exists_names_of_child hdir hs' hp' h'
  rw [Before, hnames, hnames']
  exact .append_left _ (.rel (Units.lt_of_append_left hlt)) _

end Path
end BlobTree
