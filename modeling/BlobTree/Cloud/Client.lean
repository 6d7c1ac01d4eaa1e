import BlobTree.Cloud.Credentials
import BlobTree.Store.Call

/-!
# BlobTree.Cloud.Client

The client of a remote store, seen from outside: the requests it takes, the reply each is owed and
the ways a request fails. As with stores, a client is any state machine that answers requests.
-/

namespace BlobTree
namespace Cloud

inductive Fault where
  /-- The service refused with a status. -/
  | rest (status : Int) (message : String)
  | other (message : String)
  deriving DecidableEq, Inhabited

/-- What the service says of an object; it may leave anything out. -/
structure Description where
  contentLength : Option Number := none
  lastModified : Option Time := none
  blobType : Option String := none
  deriving DecidableEq, Inhabited

/-- A page of a listing, as far as the service fills it in. -/
structure Segment where
  names : List Name
  token : Option Name := none
  deriving DecidableEq, Inhabited

inductive Request where
  | createContainer
  | download (key : Name) (offset : Number)
  | describe (key : Name)
  | exists (key : Name)
  | deleteIfExists (key : Name)
  | delete (key : Name)
  /-- Starts a copy from an address. -/
  | beginCopy (dest : Name) (url : Name)
  /-- Waits for a copy to end. -/
  | finishCopy (dest : Name)
  | upload (key : Name) (data : Bytes)
  | createAppendable (key : Name)
  | appendBlock (key : Name) (data : Bytes)
  | list (start : Option Name) (token : Option Name) (maxResults : Option Number)
  deriving DecidableEq, Inhabited

/-- What a request answers when it succeeds. A download may come without a body and a listing
without a page. -/
@[reducible] def Request.Reply : Request → Type
  | .download _ _ => Option ByteStream
  | .describe _ => Description
  | .exists _ | .deleteIfExists _ => Bool
  | .list _ _ _ => Option Segment
  | .createContainer | .delete _ | .beginCopy _ _ | .finishCopy _ | .upload _ _
  | .createAppendable _ | .appendBlock _ _ => Unit

/-- How a client is set up; none of these steps reaches the service. -/
inductive Setup where
  | fromConnectionString (text : String)
  | atAccount (url : String) (key : Option (String × String))
  | container (name : String)
  deriving DecidableEq, Inhabited

structure Client (σ : Type) where
  answer : σ → (r : Request) → Except Fault r.Reply × σ
  /-- The address of an object. -/
  url : Name → Name

/-- The steps that set up a client for a container. -/
def setup (credentials : Credentials) (container : String) : List Setup :=
  let service := match credentials with
    | .connectionString text => .fromConnectionString text
    | .sharedKey name key realm =>
      .atAccount (Credentials.serviceUrl name realm) (some (name, key))
    | .accountUrl url => .atAccount url none
  [service, .container container]

end Cloud
end BlobTree
