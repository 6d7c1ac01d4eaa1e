import Mathlib.Data.List.Induction
import BlobTree.Proofs.Path.Below

/-!
# BlobTree.Proofs.Listing.Grouping

How the paths of a listing are grouped into the children of a directory, whatever texts they are. A
path goes to the child that it is or that it goes on from after a separator (`Path.goesOn`); a child
is there once and stands where the first path that goes to it does. Path by path (`children_concat`)
or page by page (`children_append`), the grouping comes out as it does for all of them at once.

* `eraseDups_concat`, `eraseDups_append_eraseDups`: first occurrences, added one at a time or list
  by list.
* `container_name`: the spellings of a directory with one name.
* `children_grouped`: all of it.
-/

namespace BlobTree
namespace Listing

open BlobTree.Path

section Distinct

/-- One more element stands at the end, unless it was there before. -/
theorem eraseDups_concat (l : List Name) (c : Name) : (l ++ [c]).eraseDups =
    if c ∈ l then l.eraseDups else l.eraseDups ++ [c] := by
  rw [List.eraseDups_append]
  by_cases hc : c ∈ l
  · simp [List.removeAll, hc]
  · simp [List.removeAll, hc, List.eraseDups_cons]

/-- By induction on the second list from its end. -/
theorem eraseDups_append_eraseDups (l m : List Name) :
    (l ++ m.eraseDups).eraseDups = (l ++ m).eraseDups := by
  induction m using List.reverseRecOn with
  | nil => rfl
  | append_singleton m c ih =>
    rw [eraseDups_concat, ← List.append_assoc l m, eraseDups_concat]
    by_cases hc : c ∈ m
    · rw [if_pos hc, if_pos (List.mem_append_right l hc), ih]
    · rw [if_neg hc, ← List.append_assoc, eraseDups_concat, ih]
      simp only [List.mem_append, List.mem_eraseDups]

theorem eraseDups_eraseDups_append (l m : List Name) :
    (l.eraseDups ++ m).eraseDups = (l ++ m).eraseDups := by
  induction m using List.reverseRecOn with
  | nil =>
    rw [List.append_nil, List.append_nil]
    exact eraseDups_append_eraseDups [] l
  | append_singleton m c ih =>
    rw [← List.append_assoc, ← List.append_assoc, eraseDups_concat, eraseDups_concat, ih]
    simp only [List.mem_append, List.mem_eraseDups]

end Distinct

section Container

theorem head?_asContainer {p : Name} {c : Char} (h : p.head? = some c) :
    (asContainer p).head? = some c := by
  unfold asContainer
  split
  · exact h
  · rw [List.head?_append, h]
    rfl

theorem getLast?_asContainer {p : Name} (h : p ≠ []) :
    (asContainer p).getLast? = some separator := by
  unfold asContainer
  split
  · next hp => exact hp.resolve_left h
  · simp

theorem head?_container (start : Name) : (container start).head? = some separator := by
  refine head?_asContainer ?_
  split
  · assumption
  · rfl

theorem getLast?_container (start : Name) : (container start).getLast? = some separator := by
  refine getLast?_asContainer ?_
  split
  · next h =>
    rintro rfl
    cases h
  · simp

theorem asContainer_eq (p : Name) : asContainer p =
    p ++ (if p = [] ∨ p.getLast? = some separator then [] else [separator]) := by
  rw [asContainer]
  split
  · rw [List.append_nil]
  · rfl

/-- A separator is added at each end that lacks one, and only one if there is nothing between. -/
theorem container_eq (start : Name) : container start =
    (if start.head? = some separator then [] else [separator]) ++ start ++
      (if start = [] ∨ start.getLast? = some separator then [] else [separator]) := by
  cases start with
  | nil => rfl
  | cons c rest =>
    rw [container, asContainer_eq]
    by_cases hc : (c :: rest).head? = some separator
    · rw [if_pos hc, if_pos hc, List.nil_append]
    · rw [if_neg hc, if_neg hc, List.getLast?_cons_cons]
      simp only [reduceCtorEq, false_or, List.cons_append, List.nil_append]

theorem container_eq_self {start : Name} (hhead : start.head? = some separator)
    (hlast : start.getLast? = some separator) : container start = start := by
  rw [container_eq, if_pos hhead, if_pos (.inr hlast), List.nil_append, List.append_nil]

/-- A name is a directory with or without the separators around it. -/
theorem container_name {s : Name} (hne : s ≠ []) (hs : separator ∉ s) :
    ∀ start ∈ [s, separator :: s, s ++ [separator], separator :: (s ++ [separator])],
      container start = separator :: (s ++ [separator]) := by
  obtain ⟨c, rest, rfl⟩ := List.exists_cons_of_ne_nil hne
  have hc : c ≠ separator := by
    rintro rfl
    exact hs List.mem_cons_self
  have hlast : (c :: rest).getLast? ≠ some separator := fun h => hs (List.mem_of_getLast? h)
  simp only [List.mem_cons, List.not_mem_nil, or_false]
  rintro start (rfl | rfl | rfl | rfl)
  · simp [container, asContainer, hc, hlast]
  · simp [container, asContainer, hlast]
  · simp [container, asContainer, hc, List.getLast?_cons]
  · simp [container, asContainer, List.getLast?_cons]

end Container

section Children

variable {dir c p s : Name} {paths : List Name} {start : Name}

/-- A path is the child of a directory on the way to it, or goes on from that. -/
theorem goesOn_childOf (h : dir <+: p) : goesOn (childOf dir p) p := by
  obtain ⟨rest, rfl⟩ := h
  rw [goesOn_iff, childOf_append]
  rcases takeWhile_cases rest with hwhole | ⟨more, hsplit⟩
  · exact .inl (by rw [hwhole])
  · refine .inr ⟨more, ?_⟩
    conv => rhs; rw [hsplit]
    simp

/-- No other name leads to it. -/
theorem childOf_of_goesOn (hs : separator ∉ s) (h : goesOn (dir ++ s) p) :
    dir <+: p ∧ childOf dir p = dir ++ s := by
  rcases goesOn_iff.mp h with rfl | ⟨rest, rfl⟩
  · have hwhole : (s ++ []).takeWhile (· ≠ separator) = s := takeWhile_append hs rfl
    rw [List.append_nil] at hwhole
    exact ⟨List.prefix_append _ _, by rw [childOf_append, hwhole]⟩
  · rw [List.append_assoc, List.append_assoc]
    refine ⟨List.prefix_append _ _, ?_⟩
    rw [childOf_append, List.singleton_append, takeWhile_append hs (by simp)]

theorem exists_name_of_prefix (h : dir <+: p) :
    ∃ s, separator ∉ s ∧ childOf dir p = dir ++ s := by
  obtain ⟨rest, rfl⟩ := h
  refine ⟨rest.takeWhile (· ≠ separator), ?_, childOf_append _ _⟩
  intro hmem
  have hall := List.all_eq_true.mp (List.all_takeWhile (p := (· ≠ separator)) (l := rest)) _ hmem
  simp at hall

theorem exists_name (h : c ∈ children paths start) :
    ∃ s, separator ∉ s ∧ c = container start ++ s := by
  obtain ⟨p, -, hbegins, rfl⟩ := mem_children.mp h
  exact exists_name_of_prefix (List.isPrefixOf_iff_prefix.mp hbegins)

theorem mem_children_of_goesOn (hs : separator ∉ s) (hp : p ∈ paths)
    (h : goesOn (container start ++ s) p) : container start ++ s ∈ children paths start := by
  obtain ⟨hbegins, hchild⟩ := childOf_of_goesOn hs h
  exact mem_children.mpr ⟨p, hp, List.isPrefixOf_iff_prefix.mpr hbegins, hchild⟩

/-- A path goes on from a child if the child is the one on the way to it. -/
theorem goesOn_iff_of_mem (h : c ∈ children paths start) :
    goesOn c p ↔ container start <+: p ∧ childOf (container start) p = c := by
  obtain ⟨s, hs, rfl⟩ := exists_name h
  constructor
  · exact childOf_of_goesOn hs
  · rintro ⟨hbegins, hchild⟩
    rw [← hchild]
    exact goesOn_childOf hbegins

theorem children_append (paths more : List Name) (start : Name) :
    children (paths ++ more) start = (children paths start ++ children more start).eraseDups := by
  simp only [children, List.filter_append, List.map_append]
  rw [eraseDups_append_eraseDups, eraseDups_eraseDups_append]

/-- One more path gives one more child at the end, unless it is not below the directory or goes to a
child that is there. -/
theorem children_concat (paths : List Name) (start p : Name) :
    children (paths ++ [p]) start =
      if container start <+: p ∧ childOf (container start) p ∉ children paths start
        then children paths start ++ [childOf (container start) p] else children paths start := by
  by_cases hbegins : container start <+: p
  · have hp : (container start).isPrefixOf p := List.isPrefixOf_iff_prefix.mpr hbegins
    have hmem : childOf (container start) p ∈ children paths start ↔
        childOf (container start) p ∈
          (paths.filter ((container start).isPrefixOf ·)).map (childOf (container start)) :=
      List.mem_eraseDups
    simp only [hbegins, true_and, hmem, ite_not]
    simp only [children, List.filter_append, List.filter_cons_of_pos hp, List.filter_nil,
      List.map_append, List.map_cons, List.map_nil, eraseDups_concat]
  · have hp : ¬(container start).isPrefixOf p := fun h =>
      hbegins (List.isPrefixOf_iff_prefix.mp h)
    simp only [hbegins, false_and, if_false, children, List.filter_append,
      List.filter_cons_of_neg hp, List.filter_nil, List.append_nil]

theorem children_flatten (pages : List (List Name)) (start : Name) :
    children pages.flatten start = (pages.flatMap (children · start)).eraseDups := by
  induction pages with
  | nil => rfl
  | cons page rest ih =>
    rw [List.flatten_cons, children_append, ih, List.flatMap_cons, eraseDups_append_eraseDups]

/-- Children stand in the order in which the first path to each stands. By induction on the paths
from their end: what is found among them stays where it is, and a new child has the last place. -/
theorem children_inOrder (paths : List Name) (start : Name) :
    (children paths start).Pairwise fun a b =>
      paths.findIdx (goesOn a) < paths.findIdx (goesOn b) := by
  induction paths using List.reverseRecOn with
  | nil => exact List.Pairwise.nil
  | append_singleton paths p ih =>
    have hfound : ∀ c ∈ children paths start, paths.findIdx (goesOn c) < paths.length := by
      intro c hc
      obtain ⟨q, hq, hbegins, hchild⟩ := mem_children.mp hc
      refine List.findIdx_lt_length.mpr ⟨q, hq, ?_⟩
      rw [← hchild]
      exact goesOn_childOf (List.isPrefixOf_iff_prefix.mp hbegins)
    have hkept : (children paths start).Pairwise fun a b =>
        (paths ++ [p]).findIdx (goesOn a) < (paths ++ [p]).findIdx (goesOn b) := by
      refine ih.imp_of_mem fun {a b} ha hb hab => ?_
      rw [List.findIdx_append, List.findIdx_append, if_pos (hfound a ha), if_pos (hfound b hb)]
      exact hab
    rw [children_concat]
    split
    · next hnew =>
      refine List.pairwise_append.mpr ⟨hkept, List.pairwise_singleton _ _, ?_⟩
      intro a ha b hb
      obtain ⟨s, hs, hchild⟩ := exists_name_of_prefix hnew.1
      rw [List.mem_singleton, hchild] at hb
      have hnone : ¬paths.findIdx (goesOn b) < paths.length := by
        rw [List.findIdx_lt_length, hb]
        rintro ⟨q, hq, hon⟩
        exact hnew.2 (hchild ▸ mem_children_of_goesOn hs hq hon)
      rw [List.findIdx_append, List.findIdx_append, if_pos (hfound a ha), if_neg hnone]
      exact Nat.lt_of_lt_of_le (hfound a ha) (Nat.le_add_left _ _)
    · exact hkept

/-- **Grouping.** For any paths and any text for the directory, which gets a separator at each end
that lacks one: no child comes twice, and children stand in the order in which the first path to
each does. Every path below the directory is exactly one of them or goes on from it, every child
comes from such a path, and its name has no separator. The children of some paths and more are the
first occurrences among the children of each, also for any number of pages. And a directory with one
name may be written with or without the separators around it. -/
theorem children_grouped (paths : List Name) (start : Name) :
    let dir := container start
    let found := children paths start
    (dir = (if start.head? = some separator then [] else [separator]) ++ start ++
        (if start = [] ∨ start.getLast? = some separator then [] else [separator]) ∧
      dir.head? = some separator ∧ dir.getLast? = some separator ∧
      (start.head? = some separator → start.getLast? = some separator → dir = start)) ∧
    found.Nodup ∧
    found.Pairwise (fun a b => paths.findIdx (goesOn a) < paths.findIdx (goesOn b)) ∧
    (∀ p ∈ paths, dir <+: p → ∃! c, c ∈ found ∧ goesOn c p) ∧
    (∀ c ∈ found, (∃ s, separator ∉ s ∧ c = dir ++ s) ∧ ∃ p ∈ paths, dir <+: p ∧ goesOn c p) ∧
    (∀ more, children (paths ++ more) start = (found ++ children more start).eraseDups) ∧
    (∀ pages : List (List Name),
      children pages.flatten start = (pages.flatMap (children · start)).eraseDups) ∧
    (separator ∉ start → start ≠ [] →
      ∀ other ∈ [separator :: start, start ++ [separator], separator :: (start ++ [separator])],
        dir = separator :: (start ++ [separator]) ∧ children paths other = found) := by
  intro dir found
  refine ⟨⟨container_eq start, head?_container start, getLast?_container start, container_eq_self⟩,
    nodup_children paths start, children_inOrder paths start, ?_, ?_,
    fun more => children_append paths more start, fun pages => children_flatten pages start, ?_⟩
  · intro p hp hbegins
    have hmem : childOf dir p ∈ found :=
      mem_children.mpr ⟨p, hp, List.isPrefixOf_iff_prefix.mpr hbegins, rfl⟩
    refine ⟨childOf dir p, ⟨hmem, goesOn_childOf hbegins⟩, ?_⟩
    rintro c ⟨hc, hon⟩
    exact ((goesOn_iff_of_mem hc).mp hon).2.symm
  · intro c hc
    obtain ⟨p, hp, hbegins, hchild⟩ := mem_children.mp hc
    have hbegins : dir <+: p := List.isPrefixOf_iff_prefix.mp hbegins
    exact ⟨exists_name hc, p, hp, hbegins, (goesOn_iff_of_mem hc).mpr ⟨hbegins, hchild⟩⟩
  · intro hs hne other hother
    have hspelt := container_name hne hs
    have hdir : dir = separator :: (start ++ [separator]) := hspelt start List.mem_cons_self
    have hsame : container other = dir := by
      rw [hspelt other (List.mem_cons_of_mem _ hother), hdir]
    refine ⟨hdir, ?_⟩
    show children paths other = children paths start
    rw [children, children, hsame]

/-- Below one directory: a file, a directory of the same name, names that only begin alike, empty
names in the middle and at the end, and a path that lies elsewhere; in two pages. -/
theorem children_grouped_mixed :
    let start := "d".toList
    let page := ["/d/a".toList, "/d/ab/x".toList, "/d//y".toList, "/e/a".toList]
    let more := ["/d/a/b".toList, "/d/".toList, "/d/c/".toList]
    let found := children (page ++ more) start
    found = ["/d/a".toList, "/d/ab".toList, "/d/".toList, "/d/c".toList] ∧
    found = (children page start ++ children more start).eraseDups ∧
    (∃! c, c ∈ found ∧ goesOn c "/d/a/b".toList) ∧
    children (page ++ more) "/d/".toList = found := by
  intro start page more found
  obtain ⟨-, -, -, hone, -, -, -, hspelt⟩ := children_grouped (page ++ more) start
  obtain ⟨-, -, -, -, -, happend, -⟩ := children_grouped page start
  refine ⟨by decide +kernel, happend more, hone _ (by decide +kernel) (by decide +kernel), ?_⟩
  exact (hspelt (by decide +kernel) (by decide +kernel) _ (by decide +kernel)).2

end Children

end Listing
end BlobTree
