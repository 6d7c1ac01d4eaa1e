import BlobTree.Number.Decimal
import BlobTree.Text.Units

/-!
# BlobTree.Store.Call

A flat object store, seen from outside: the calls it takes, the reply each call is owed and the
ways a call fails. A backend is any state machine that answers calls; nothing more is assumed
of it, so what is proved of the library over a backend holds of every store.

* `Call.Reply`: the type of the answer depends on the call.
* `StoreError.message`: the wording of every failure.
-/

namespace BlobTree

abbrev Bytes := List UInt8

/-- What kind of object is stored under a key: only append objects can grow, and a `put` always
leaves a block object. -/
inductive ObjectKind where
  | block
  | append
  | page
  deriving DecidableEq, Repr, Inhabited

def ObjectKind.name : ObjectKind → String
  | .block => "block"
  | .append => "append"
  | .page => "page"

/-- Milliseconds since 1970. -/
abbrev Time := Int

structure Properties where
  size : Number
  modTime : Time
  kind : ObjectKind
  deriving DecidableEq, Inhabited

/-- Some keys of a listing and where the next page starts; the empty marker ends the listing. -/
structure Page where
  keys : List Name
  nextMarker : Name
  deriving DecidableEq, Inhabited

structure PageRequest where
  marker : Option Name := none
  maxResults : Option Number := none
  deriving DecidableEq, Inhabited

inductive StoreError where
  /-- There is nothing under the key. -/
  | notFound (key : Name)
  | putTooLarge (size : Nat) (limit : Number)
  | chunkTooLarge (size : Nat) (limit : Number)
  | notAppendable (key : Name) (kind : ObjectKind)
  /-- A remote store was asked before it was connected. -/
  | notConnected
  /-- A download came back without a body. -/
  | noContent (key : Name)
  /-- A remote store refused with this status. -/
  | remote (status : Int) (message : String)
  /-- Anything else that goes wrong below the store. -/
  | broken (message : String)
  deriving DecidableEq, Inhabited

def StoreError.message : StoreError → String
  | .notFound key => "Blob not found: " ++ String.ofList key
  | .putTooLarge size limit => s!"Payload of {size} bytes exceeds put limit of {limit}"
  | .chunkTooLarge size limit => s!"Chunk of {size} bytes exceeds append limit of {limit}"
  | .notAppendable key kind =>
    "Blob " ++ String.ofList key ++ " is a " ++ kind.name ++ " blob and cannot be appended to"
  | .notConnected => "AzureBlobStore not initialized. Call initialize() first."
  | .noContent key => "Blob " ++ String.ofList key ++ " has no content"
  | .remote _ message => message
  | .broken message => message

/-- The content of an object on its way to the reader: the chunks that arrive, then perhaps a
failure. -/
structure ByteStream where
  chunks : List Bytes := []
  fault : Option String := none
  /-- The status of the failure, if it is a refusal of the service. -/
  status : Option Int := none
  deriving DecidableEq, Inhabited

def ByteStream.error? (s : ByteStream) : Option StoreError :=
  s.fault.map fun message =>
    match s.status with
    | none => .broken message
    | some status => .remote status message

/-- All bytes of a stream, if it comes to its end. -/
def ByteStream.drain (s : ByteStream) : Except StoreError Bytes :=
  match s.error? with
  | none => .ok s.chunks.flatten
  | some e => .error e

inductive Call where
  | get (key : Name)
  | read (key : Name) (offset : Number)
  | put (key : Name) (data : Bytes)
  | properties (key : Name)
  | exists (key : Name)
  | deleteIfExists (key : Name)
  | delete (key : Name)
  | listPage (start : Name) (request : PageRequest)
  | createAppendable (key : Name)
  | appendChunk (key : Name) (data : Bytes)
  | copy (source dest : Name)
  | createContainer
  deriving DecidableEq, Inhabited

@[reducible] def Call.Reply : Call → Type
  | .get _ => Bytes
  | .read _ _ => ByteStream
  | .properties _ => Properties
  | .exists _ => Bool
  | .deleteIfExists _ => Bool
  | .listPage _ _ => Page
  | .put _ _ | .delete _ | .createAppendable _ | .appendChunk _ _ | .copy _ _
  | .createContainer => Unit

/-- A store: its limits and its answers. A refused call may still change the state. -/
structure Backend (σ : Type) where
  /-- The largest payload of a single `put`. -/
  maxPutSize : Number
  /-- The largest payload of a single `appendChunk`. -/
  maxAppendSize : Number
  answer : σ → (c : Call) → Except StoreError c.Reply × σ

end BlobTree
