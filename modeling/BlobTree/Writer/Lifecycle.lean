/-!
# BlobTree.Writer.Lifecycle

The life of a writer session. It is open until it is committed or cancelled, and any of the three
can be closed; nothing can be done with a closed session.

* `Operation.allowed`: the states in which each operation is legal.
-/

namespace BlobTree
namespace Writer

inductive State where
  | open
  | committed
  | cancelled
  | closed
  deriving DecidableEq, Repr, Inhabited

def State.name : State → String
  | .open => "open"
  | .committed => "committed"
  | .cancelled => "cancelled"
  | .closed => "closed"

inductive Operation where
  | write
  | commit
  | cancel
  | close
  deriving DecidableEq, Repr, Inhabited

def Operation.name : Operation → String
  | .write => "write"
  | .commit => "commit"
  | .cancel => "cancel"
  | .close => "close"

/-- How a session ended. It is `uncommitted` when it was closed straight from open: the data is
in the store, but nobody said whether to keep it. -/
inductive Outcome where
  | pending
  | committed
  | cancelled
  | uncommitted
  deriving DecidableEq, Repr, Inhabited

def Outcome.name : Outcome → String
  | .pending => "pending"
  | .committed => "committed"
  | .cancelled => "cancelled"
  | .uncommitted => "uncommitted"

def Operation.allowed : Operation → List State
  | .write | .commit | .cancel => [.open]
  | .close => [.open, .committed, .cancelled]

end Writer
end BlobTree
