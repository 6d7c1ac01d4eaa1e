import BlobTree.Action
import BlobTree.Root

/-!
# BlobTree.Listing

Listing everything below a path, page by page. A listing stops at the first page without keys or
without a marker; a marker that comes a second time ends it with a failure that carries what was
listed so far, so only a store that invents new markers for ever keeps it from ending.

* `Cursor.fetch`: one page. `Cursor.rest`: all pages from there on.
* `children`: the paths right below a directory, grouped from paths at any depth.
-/

namespace BlobTree

/-- Where a listing stands. -/
structure Cursor where
  /-- Where the next page starts. -/
  marker : Name := []
  /-- The markers handed back so far. -/
  seen : List Name := []
  /-- The paths listed so far. -/
  gathered : List Name := []
  deriving DecidableEq, Inhabited

/-- How a listing goes on after a page. -/
inductive Cursor.Next where
  | more (c : Cursor)
  | finished
  | repeated (marker : Name)
  deriving DecidableEq

namespace Listing

variable {σ : Type} (b : Backend σ) (root : Root)

/-- The paths of keys, or the first key that has none. -/
def pathsOf : List Name → Except Failure (List Name)
  | [] => .ok []
  | k :: rest =>
    match root.pathOf? k with
    | none => .error (.outsideRoot k root.key)
    | some path => (pathsOf rest).map (path :: ·)

/-- What follows a page. -/
def advance (c : Cursor) (page : Page) (paths : List Name) : Cursor.Next :=
  if page.keys = [] ∨ page.nextMarker = [] then .finished
  else if page.nextMarker ∈ c.seen then .repeated page.nextMarker
  else .more ⟨page.nextMarker, page.nextMarker :: c.seen, c.gathered ++ paths⟩

def fetch (start : Name) (c : Cursor) : Action σ (List Name × Cursor.Next) := do
  let page ← Action.call b (.listPage start { marker := some c.marker })
  let paths ← Action.ofExcept (pathsOf root page.keys)
  return (paths, advance c page paths)

/-- All paths from a cursor on, in at most `budget` pages. -/
def rest (start : Name) : (budget : Nat) → Cursor → Action σ (List Name)
  | 0, _ => Action.unfinished
  | budget + 1, c => do
    let (paths, next) ← fetch b root start c
    let gathered := c.gathered ++ paths
    match next with
    | .finished => return gathered
    | .repeated marker => Action.fail (.repeatedMarker start marker gathered)
    | .more c => rest start budget c

/-- Every path stored below a path, at any depth. -/
def below (budget : Nat) (path : Name) : Action σ (List Name) :=
  rest b root (root.listingPrefix path) budget {}

/-- The pages of a listing, at most `count` of them and at least one, and how it ended. A listing
that is cut short there does not look at what follows its last page. -/
def pages (start : Name) : (count : Nat) → Cursor → Action σ (List (List Name) × Option Failure)
  | count, c => do
    match ← Action.attempt (fetch b root start c) with
    | .error f => return ([], some f)
    | .ok (paths, next) =>
      match count with
      | 0 | 1 => return ([paths], none)
      | count + 1 =>
        match next with
        | .finished => return ([paths], none)
        | .repeated marker =>
          return ([paths], some (.repeatedMarker start marker (c.gathered ++ paths)))
        | .more c =>
          let (more, ending) ← pages start count c
          return (paths :: more, ending)

/-- The directory whose descendants are asked for, with a separator at both ends. -/
def container (start : Name) : Name :=
  Path.asContainer (if start.head? = some Path.separator then start else Path.separator :: start)

/-- The path right below `dir` on the way to a path that begins with `dir`. -/
def childOf (dir path : Name) : Name :=
  dir ++ (path.drop dir.length).takeWhile (· ≠ Path.separator)

/-- The paths right below a directory among `paths`, each once and in the order in which they
come first. -/
def children (paths : List Name) (start : Name) : List Name :=
  let dir := container start
  ((paths.filter (dir.isPrefixOf ·)).map (childOf dir)).eraseDups

end Listing
end BlobTree
