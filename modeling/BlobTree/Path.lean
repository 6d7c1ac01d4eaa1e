import BlobTree.Text.Units

/-!
# BlobTree.Path

Virtual paths. A path is one or more segments, each after a separator; a segment is one or more
letters, digits, dots, underscores or hyphens. The separator alone is the root, a directory but
not a path.

* `isValid_ofSegments`: putting segments together gives a path, and `segments` takes it apart
  again (`segments_ofSegments`).
-/

namespace BlobTree
namespace Path

def separator : Char := '/'

/-- The directory above every path. -/
def root : Name := ['/']

def isSegmentChar (c : Char) : Bool :=
  c.isAlphanum || c = '.' || c = '_' || c = '-'

def isSegment (s : Name) : Bool :=
  !s.isEmpty && s.all isSegmentChar

def ofSegments (segs : List Name) : Name :=
  segs.flatMap (separator :: ·)

/-- The parts after each separator of a text that begins with one. -/
def segments (p : Name) : List Name :=
  (p.splitOn separator).drop 1

def isValid (p : Name) : Bool :=
  p.head? = some separator && !(segments p).isEmpty && (segments p).all isSegment

def isDirectory (p : Name) : Bool :=
  p = root || isValid p

/-- A name as the start of the names below it: a separator is added unless the name is empty or
ends in one. -/
def asContainer (p : Name) : Name :=
  if p = [] ∨ p.getLast? = some separator then p else p ++ [separator]

theorem splitOn_ofSegments {segs : List Name} (h : ∀ s ∈ segs, separator ∉ s) (first : Name)
    (hf : separator ∉ first) :
    (first ++ ofSegments segs).splitOn separator = first :: segs := by
  induction segs generalizing first with
  | nil => simpa [ofSegments] using List.splitOn_eq_singleton hf
  | cons s rest ih =>
    have hs : separator ∉ s := h s List.mem_cons_self
    have hrest : ∀ t ∈ rest, separator ∉ t := fun t ht => h t (List.mem_cons_of_mem _ ht)
    show (first ++ separator :: (s ++ ofSegments rest)).splitOn separator = _
    rw [List.splitOn, List.splitOnP_append_cons _ _ (by simp), ← List.splitOn, ← List.splitOn,
      List.splitOn_eq_singleton hf, ih hrest s hs]
    rfl

theorem segments_ofSegments {segs : List Name} (h : ∀ s ∈ segs, separator ∉ s) :
    segments (ofSegments segs) = segs := by
  simpa [segments] using congrArg (List.drop 1) (splitOn_ofSegments h [] (by simp))

theorem separator_notMem_of_isSegment {s : Name} (h : isSegment s) : separator ∉ s := fun hm =>
  absurd (List.all_eq_true.mp (Bool.and_eq_true_iff.mp h).2 _ hm) (by decide)

theorem isValid_ofSegments {segs : List Name} (hne : segs ≠ []) (h : ∀ s ∈ segs, isSegment s) :
    isValid (ofSegments segs) := by
  have hseg := segments_ofSegments fun s hs => separator_notMem_of_isSegment (h s hs)
  cases segs with
  | nil => exact absurd rfl hne
  | cons s rest =>
    have hhead : (ofSegments (s :: rest)).head? = some separator := rfl
    simp only [isValid, hhead, hseg, decide_true, List.isEmpty_cons, Bool.not_false, Bool.and_self,
      Bool.true_and, List.all_eq_true]
    exact h

end Path
end BlobTree
