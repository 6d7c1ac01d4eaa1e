import BlobTree.Path

/-!
# BlobTree.Root

Where a tree of paths lives among the keys of a flat store. A root directory is a text without
trailing separators; keys have no leading separator, so the root's own key drops those too.

* `keyOf` sends a path to its key, `pathOf?` a listed key back to a path.
* `listingPrefix` is the start of every key below a path.
-/

namespace BlobTree

def Path.dropLeading (s : Name) : Name :=
  s.dropWhile (· = separator)

def Path.dropTrailing (s : Name) : Name :=
  (s.reverse.dropWhile (· = separator)).reverse

structure Root where
  dir : Name
  deriving DecidableEq, Inhabited

namespace Root

/-- The root at a directory, whatever its trailing separators. -/
def ofDir (dir : Name) : Root :=
  ⟨Path.dropTrailing dir⟩

/-- The root as the start of its keys. -/
def key (r : Root) : Name :=
  Path.dropLeading r.dir

def keyOf (r : Root) (path : Name) : Name :=
  Path.dropLeading (r.dir ++ path)

/-- The path of a key under the root. Only the text of the root's key is compared, not what
follows it; under an empty root every key has a path. -/
def pathOf? (r : Root) (k : Name) : Option Name :=
  if r.key = [] then some (Path.separator :: k)
  else if r.key.isPrefixOf k then some (k.drop r.key.length)
  else none

/-- The start of every key below a path; the empty path stands for the whole root. -/
def listingPrefix (r : Root) (path : Name) : Name :=
  r.keyOf (if path = [] then Path.root else Path.asContainer path)

end Root
end BlobTree
