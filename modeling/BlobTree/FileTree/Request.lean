import BlobTree.FileTree

/-!
# BlobTree.FileTree.Request

Operations on single files as data, so that a run is a list of them. Every operation starts from
the world the one before left behind, however that one ended.

* `FileTree.perform`: carries out one of them; `FileTree.run` a list.
-/

namespace BlobTree
namespace FileTree

inductive Request where
  | getContent (path : Name)
  | putContent (path : Name) (data : Bytes)
  | reader (path : Name) (offset : Number)
  | writer (path : Name) (append : Bool)
  | move (source dest : Name)
  | delete (path : Name)
  deriving DecidableEq, Inhabited

inductive Reply where
  | content (data : Bytes)
  /-- A writer session on a path and the size it starts at. -/
  | session (path : Name) (size : Number)
  | done
  deriving DecidableEq, Inhabited

variable {σ : Type} (t : FileTree) (b : Backend σ)

def drained (s : ByteStream) : Action σ Reply :=
  match s.drain with
  | .ok data => pure (.content data)
  | .error e => Action.fail (.store e)

/-- Carries out an operation; what a reader gives is read to its end. -/
def perform : Request → Action σ Reply
  | .getContent path => do return .content (← t.getContent b path)
  | .putContent path data => do
    t.putContent b path data
    return .done
  | .reader path offset => do drained (← t.reader b path offset)
  | .writer path append => do
    let w ← t.writer b path append
    return .session w.path w.size
  | .move source dest => do
    t.move b source dest
    return .done
  | .delete path => do
    t.delete b path
    return .done

def run : List Request → World σ → List (Except Stop Reply) × World σ
  | [], w => ([], w)
  | q :: rest, w =>
    let (r, w) := (t.perform b q).exec w
    let (rs, w) := run rest w
    (r :: rs, w)

end FileTree
end BlobTree
