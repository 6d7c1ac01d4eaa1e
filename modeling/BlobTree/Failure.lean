import BlobTree.Store.Call
import BlobTree.Writer.Lifecycle

/-!
# BlobTree.Failure

Every way in which an operation on the tree fails, and the wording of each. Failures of the tree
itself begin with the name of the driver; a failure of the store below keeps its own wording, and
so does one raised by a caller's function.

* `Failure.isDriver`: the failures that are the tree's own.
-/

namespace BlobTree

/-- The name under which the tree reports. -/
def driverName : String := "azure"

inductive Failure where
  | pathNotFound (path : Name)
  | invalidPath (path : Name)
  | invalidOffset (path : Name) (offset : Number)
  /-- A whole-object write larger than the store takes in one call. -/
  | sizeLimit (path : Name) (size : Nat) (limit : Number)
  | invalidState (operation : Writer.Operation) (state : Writer.State)
  | unsupported (method : String)
  /-- A listing came back to a marker it had already given; `partialPaths` were listed before. -/
  | repeatedMarker (start marker : Name) (partialPaths : List Name)
  /-- A listed key that does not begin with the root's key. -/
  | outsideRoot (key rootKey : Name)
  | badChunkSize (size : Number)
  | store (e : StoreError)
  /-- Raised by a function that the caller handed in. -/
  | raised (message : String)
  deriving DecidableEq, Inhabited

namespace Failure

/-- The failures that the tree raises itself. -/
def isDriver : Failure → Bool
  | .pathNotFound _ | .invalidPath _ | .invalidOffset _ _ | .sizeLimit _ _ _ | .invalidState _ _
  | .unsupported _ | .repeatedMarker _ _ _ => true
  | .outsideRoot _ _ | .badChunkSize _ | .store _ | .raised _ => false

private def ofDriver (text : String) : String :=
  driverName ++ ": " ++ text

def message : Failure → String
  | .pathNotFound path => ofDriver ("Path not found: " ++ String.ofList path)
  | .invalidPath path => ofDriver ("invalid path: " ++ String.ofList path)
  | .invalidOffset path offset =>
    ofDriver ("invalid offset: " ++ offset.text ++ " for path: " ++ String.ofList path)
  | .sizeLimit path size limit =>
    ofDriver (s!"uploading {size} bytes to " ++ String.ofList path ++
      s!" with putContent is not supported; limit: {limit} bytes")
  | .invalidState operation state =>
    ofDriver ("cannot " ++ operation.name ++ ": already " ++ state.name)
  | .unsupported method => ofDriver ("unsupported method: " ++ method)
  | .repeatedMarker start marker _ =>
    ofDriver ("listing of \"" ++ String.ofList start ++ "\" repeated continuation marker \"" ++
      String.ofList marker ++ "\"")
  | .outsideRoot key rootKey =>
    "Blob key \"" ++ String.ofList key ++ "\" is outside root \"" ++ String.ofList rootKey ++ "\""
  | .badChunkSize size => "maxChunkSize must be a positive integer, got " ++ size.text
  | .store e => e.message
  | .raised message => message

/-- A failure to find an object becomes a failure to find the path it stands for. -/
def atPath (path : Name) : Failure → Failure
  | .store (.notFound _) => .pathNotFound path
  | f => f

end Failure
end BlobTree
