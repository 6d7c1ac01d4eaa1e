import BlobTree.Store.Call

/-!
# BlobTree.Entry

What stands at a path: a file with the size and time of its object, or a directory, which is not
stored anywhere but is there because some key lies below it.
-/

namespace BlobTree

inductive Entry where
  | file (path : Name) (size : Number) (modTime : Time)
  | directory (path : Name)
  deriving DecidableEq, Inhabited

namespace Entry

def path : Entry → Name
  | .file path _ _ => path
  | .directory path => path

def isDirectory : Entry → Bool
  | .file _ _ _ => false
  | .directory _ => true

end Entry
end BlobTree
