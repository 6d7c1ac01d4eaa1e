import BlobTree.FileTree

/-!
# BlobTree.FileTree.Operation

The operations of a tree as data, all but the walk, which is given a function. What an operation
returns is kept as it is: a stream is not read and a session is not used.

* `FileTree.carryOut`: carries out one of them.
-/

namespace BlobTree
namespace FileTree

inductive Operation where
  | getContent (path : Name)
  | putContent (path : Name) (data : Bytes)
  | reader (path : Name) (offset : Number)
  | writer (path : Name) (append : Bool)
  | stat (path : Name)
  | list (path : Name)
  | move (source dest : Name)
  | delete (path : Name)
  | urlFor (path : Name)
  deriving DecidableEq, Inhabited

/-- The path that an operation is about: for a move, the one it moves from. -/
def Operation.path : Operation → Name
  | .getContent path | .putContent path _ | .reader path _ | .writer path _ | .stat path
  | .list path | .move path _ | .delete path | .urlFor path => path

inductive Answer where
  | content (data : Bytes)
  | stream (s : ByteStream)
  | session (w : Writer)
  | entry (e : Entry)
  | paths (ps : List Name)
  | address (url : String)
  | done
  deriving DecidableEq

/-- The session that has been opened, if the operation opens one. -/
def Answer.session? : Answer → Option Writer
  | .session w => some w
  | _ => none

theorem Answer.eq_session {a : Answer} {w : Writer} (h : w ∈ a.session?.toList) :
    a = .session w := by
  cases a with
  | session w' =>
    obtain rfl : w = w' := by simpa [session?] using h
    rfl
  | _ => cases h

variable {σ : Type} (t : FileTree) (b : Backend σ)

def carryOut : Operation → Action σ Answer
  | .getContent path => do return .content (← t.getContent b path)
  | .putContent path data => do
    t.putContent b path data
    return .done
  | .reader path offset => do return .stream (← t.reader b path offset)
  | .writer path append => do return .session (← t.writer b path append)
  | .stat path => do return .entry (← t.stat b path)
  | .list path => do return .paths (← t.list b path)
  | .move source dest => do
    t.move b source dest
    return .done
  | .delete path => do
    t.delete b path
    return .done
  | .urlFor path => do return .address (← urlFor path)

end FileTree
end BlobTree
