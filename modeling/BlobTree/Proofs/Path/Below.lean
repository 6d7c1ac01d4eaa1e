import BlobTree.Proofs.Root

/-!
# BlobTree.Proofs.Path.Below

What lies below a directory. A path below a directory goes on with a segment, and the directory
with that segment is its child (`childOf`): the path itself, or a directory above it. Every path is
a child of its own parent.

* `exists_child_of_isBelow`, `childOf_of_isBelow`: the child on the way to a path below.
* `exists_segment_of_isValid`: a path is the child of its parent.
* `mem_children`: which paths the grouping of a listing gives.
-/

namespace BlobTree
namespace Path

/-- Whether a path lies below a directory, at any depth. -/
def isBelow (dir p : Name) : Bool :=
  (asContainer dir).isPrefixOf p

/-- Whether a text is `c` or goes on from it after a separator. Unlike `isBelow` this takes one
separator more if `c` ends in one. -/
def goesOn (c p : Name) : Bool :=
  p = c || (c ++ [separator]).isPrefixOf p

/-- The directory that a path is a child of. -/
def parent (p : Name) : Name :=
  let dirs := (segments p).dropLast
  if dirs = [] then root else ofSegments dirs

/-- A directory and one segment more. -/
def IsChild (dir p : Name) : Prop :=
  ∃ s, isSegment s ∧ p = asContainer dir ++ s

@[simp] theorem asContainer_root : asContainer root = [separator] := rfl

theorem isBelow_iff {dir p : Name} : isBelow dir p ↔ asContainer dir <+: p :=
  List.isPrefixOf_iff_prefix

theorem goesOn_iff {c p : Name} : goesOn c p ↔ p = c ∨ c ++ [separator] <+: p := by
  simp [goesOn]

theorem isBelow_root {p : Name} (h : isValid p) : isBelow root p := by
  obtain ⟨c, q, rfl, -⟩ := exists_body h
  exact isBelow_iff.mpr (List.prefix_append [separator] _)

theorem isDirectory_iff {p : Name} : isDirectory p ↔ p = root ∨ isValid p := by
  simp [isDirectory]

theorem head?_splitOn (s : Name) :
    (s.splitOn separator).head? = some (s.takeWhile (· ≠ separator)) := by
  induction s with
  | nil => rfl
  | cons c rest ih =>
    rw [List.splitOn_cons_eq_if_modifyHead]
    by_cases hc : c = separator
    · simp [hc]
    · simp [hc, ih]

/-- Up to its first separator a text is what it is as a whole, or is followed by that separator. -/
theorem takeWhile_cases (s : Name) :
    s.takeWhile (· ≠ separator) = s ∨
      ∃ more, s = s.takeWhile (· ≠ separator) ++ separator :: more := by
  have hsplit := List.takeWhile_append_dropWhile (p := (· ≠ separator)) (l := s)
  cases hmore : s.dropWhile (· ≠ separator) with
  | nil =>
    rw [hmore, List.append_nil] at hsplit
    exact .inl hsplit
  | cons c more =>
    have hc : c = separator := by
      have hhead := List.head?_dropWhile_not (fun c => decide (c ≠ separator)) s
      rw [hmore] at hhead
      simpa using hhead
    rw [hmore, hc] at hsplit
    exact .inr ⟨more, hsplit.symm⟩

theorem takeWhile_append {s rest : Name} (hs : separator ∉ s)
    (hrest : rest.takeWhile (· ≠ separator) = []) :
    (s ++ rest).takeWhile (· ≠ separator) = s := by
  have hall : ∀ c ∈ s, decide (c ≠ separator) = true := fun c hc => by
    simpa using ne_of_mem_of_not_mem hc hs
  rw [List.takeWhile_append_of_pos hall, hrest, List.append_nil]

/-- After any separator of a path comes a segment. -/
theorem isSegment_of_isValid {a rest : Name} (h : isValid (a ++ separator :: rest)) :
    isSegment (rest.takeWhile (· ≠ separator)) := by
  obtain ⟨segs, -, hseg, heq⟩ := exists_segments h
  have hsplit : (a ++ separator :: rest).splitOn separator =
      a.splitOn separator ++ rest.splitOn separator := by
    rw [List.splitOn, List.splitOnP_append_cons _ _ (by simp), ← List.splitOn, ← List.splitOn]
  have hsegs : segments (a ++ separator :: rest) = segs := by
    rw [heq]
    exact segments_ofSegments fun s hs => separator_notMem_of_isSegment (hseg s hs)
  obtain ⟨first, more, hfirst⟩ := List.exists_cons_of_ne_nil (List.splitOn_ne_nil separator a)
  rw [segments, hsplit, hfirst, List.cons_append, List.drop_succ_cons, List.drop_zero] at hsegs
  refine hseg _ (hsegs ▸ List.mem_append_right _ ?_)
  exact List.mem_of_head? (head?_splitOn rest)

theorem isValid_child {dir s : Name} (hdir : isDirectory dir) (hs : isSegment s) :
    isValid (asContainer dir ++ s) := by
  rcases isDirectory_iff.mp hdir with rfl | hdir
  · have hone : isValid (ofSegments [s]) := isValid_ofSegments (by simp) (by simpa using hs)
    simpa [ofSegments] using hone
  · obtain ⟨segs, hne, hseg, rfl⟩ := exists_segments hdir
    have hmore : isValid (ofSegments (segs ++ [s])) :=
      isValid_ofSegments (by simp) fun t ht => by
        rcases List.mem_append.mp ht with ht | ht
        · exact hseg t ht
        · rw [List.mem_singleton.mp ht]
          exact hs
    rw [asContainer_of_isValid hdir]
    simpa [ofSegments] using hmore

theorem isDirectory_child {dir p : Name} (hdir : isDirectory dir) (hp : IsChild dir p) :
    isDirectory p := by
  obtain ⟨s, hs, rfl⟩ := hp
  exact isDirectory_iff.mpr (.inr (isValid_child hdir hs))

theorem isChild_parent {p : Name} (h : isValid p) :
    isDirectory (parent p) ∧ IsChild (parent p) p := by
  obtain ⟨segs, hne, hseg, rfl⟩ := exists_segments h
  have hsegs : segments (ofSegments segs) = segs :=
    segments_ofSegments fun s hs => separator_notMem_of_isSegment (hseg s hs)
  obtain ⟨dirs, s, rfl⟩ : ∃ dirs s, segs = dirs ++ [s] :=
    ⟨_, _, (List.dropLast_concat_getLast hne).symm⟩
  have hs : isSegment s := hseg s (by simp)
  simp only [parent, hsegs, List.dropLast_concat]
  by_cases hdirs : dirs = []
  case pos =>
    rw [if_pos hdirs]
    refine ⟨isDirectory_iff.mpr (.inl rfl), s, hs, ?_⟩
    rw [hdirs]
    simp [ofSegments]
  case neg =>
    have hdir : isValid (ofSegments dirs) :=
      isValid_ofSegments hdirs fun t ht => hseg t (List.mem_append_left _ ht)
    rw [if_neg hdirs]
    refine ⟨isDirectory_iff.mpr (.inr hdir), s, hs, ?_⟩
    rw [asContainer_of_isValid hdir]
    simp [ofSegments]

end Path

namespace Listing

open BlobTree.Path

theorem mem_children {paths : List Name} {start c : Name} :
    c ∈ children paths start ↔
      ∃ q ∈ paths, (container start).isPrefixOf q ∧ childOf (container start) q = c := by
  simp [children, List.mem_eraseDups, and_assoc]

theorem nodup_eraseDups (l : List Name) : l.eraseDups.Nodup := by
  match l with
  | [] => simp
  | c :: rest =>
    have hlength := List.length_filter_le (fun d => !d == c) rest
    rw [List.eraseDups_cons, List.nodup_cons, List.mem_eraseDups]
    exact ⟨by simp, nodup_eraseDups _⟩
termination_by l.length

theorem nodup_children (paths : List Name) (start : Name) : (children paths start).Nodup :=
  nodup_eraseDups _

theorem exists_container {dir : Name} (hdir : isDirectory dir) :
    ∃ a, asContainer dir = a ++ [separator] := by
  rcases isDirectory_iff.mp hdir with rfl | hdir
  · exact ⟨[], rfl⟩
  · exact ⟨dir, asContainer_of_isValid hdir⟩

theorem childOf_append (dir rest : Name) :
    childOf dir (dir ++ rest) = dir ++ rest.takeWhile (· ≠ separator) := by
  rw [childOf, List.drop_left]

/-- The child on the way to a path below a directory is the path or lies above it. -/
theorem childOf_of_isBelow {dir q : Name} (hdir : isDirectory dir) (hq : isValid q)
    (h : isBelow dir q) :
    IsChild dir (childOf (asContainer dir) q) ∧
      (childOf (asContainer dir) q = q ∨ isBelow (childOf (asContainer dir) q) q) := by
  obtain ⟨rest, rfl⟩ := isBelow_iff.mp h
  obtain ⟨a, ha⟩ := exists_container hdir
  have hs : isSegment (rest.takeWhile (· ≠ separator)) := by
    refine isSegment_of_isValid (a := a) ?_
    rwa [ha, List.append_assoc] at hq
  have hchild : isValid (asContainer dir ++ rest.takeWhile (· ≠ separator)) :=
    isValid_child hdir hs
  rw [childOf_append]
  refine ⟨⟨_, hs, rfl⟩, ?_⟩
  rcases takeWhile_cases rest with hwhole | ⟨more, hsplit⟩
  · exact .inl (by rw [hwhole])
  · refine .inr (isBelow_iff.mpr ?_)
    rw [asContainer_of_isValid hchild]
    refine ⟨more, ?_⟩
    conv => rhs; rw [hsplit]
    simp

/-- A child that is a path or lies above one is the child on the way to it. -/
theorem childOf_of_isChild {dir c q : Name} (hdir : isDirectory dir) (hc : IsChild dir c)
    (h : c = q ∨ isBelow c q) : isBelow dir q ∧ childOf (asContainer dir) q = c := by
  obtain ⟨s, hs, rfl⟩ := hc
  have hnone := separator_notMem_of_isSegment hs
  rcases h with rfl | h
  · refine ⟨isBelow_iff.mpr (List.prefix_append _ _), ?_⟩
    have hwhole : (s ++ []).takeWhile (· ≠ separator) = s := takeWhile_append hnone rfl
    rw [List.append_nil] at hwhole
    rw [childOf_append, hwhole]
  · obtain ⟨rest, rfl⟩ := isBelow_iff.mp h
    rw [asContainer_of_isValid (isValid_child hdir hs), List.append_assoc, List.append_assoc]
    refine ⟨isBelow_iff.mpr (List.prefix_append _ _), ?_⟩
    rw [childOf_append, List.singleton_append, takeWhile_append hnone (by simp)]

end Listing
end BlobTree
