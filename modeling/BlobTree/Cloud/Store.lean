import BlobTree.Cloud.Client

/-!
# BlobTree.Cloud.Store

A remote container as a store. Whole objects are uploaded as block objects, chunks go to append
objects.

* A refusal with status 404 means that the object is not there, where the store's contract has a
  failure for that: for reading, for properties, for deleting and for the source of a copy
  (`Fault.about`). Everywhere else it is passed on like any other refusal.
-/

namespace BlobTree
namespace Cloud

/-- A fault as a failure of the store. -/
def Fault.error : Fault → StoreError
  | .rest status message => .remote status message
  | .other message => .broken message

/-- A fault met while asking for an object that has to be there. -/
def Fault.about (key : Name) : Fault → StoreError
  | .rest 404 _ => .notFound key
  | f => f.error

/-- The client's state and whether it has been connected to its container. -/
structure Link (σ : Type) where
  client : σ
  connected : Bool := false

def maxPutSize : Nat := 256 * 1024 * 1024

def maxAppendSize : Nat := 4 * 1024 * 1024

/-- The kind that a service's word for it stands for. -/
def kindOf (blobType : Option String) : ObjectKind :=
  if blobType = some "AppendBlob" then .append
  else if blobType = some "PageBlob" then .page
  else .block

def nonEmpty (s : Name) : Option Name :=
  if s.isEmpty then none else some s

variable {σ : Type} (client : Client σ)

abbrev Exchange (σ : Type) := ExceptT StoreError (StateM σ)

/-- Sends a request, with a reading of its faults. -/
def send (r : Request) (reading : Fault → StoreError) : Exchange σ r.Reply :=
  fun s =>
    let (reply, s) := client.answer s r
    (reply.mapError reading, s)

/-- Starts a download; an object without a body is a failure of its own. -/
def download (key : Name) (offset : Number) : Exchange σ ByteStream := do
  match ← send client (.download key offset) (Fault.about key) with
  | some stream => return stream
  | none => throw (.noContent key)

def properties (key : Name) : Exchange σ Properties := do
  let d ← send client (.describe key) (Fault.about key)
  return ⟨d.contentLength.getD (.ofNat 0), d.lastModified.getD 0, kindOf d.blobType⟩

/-- A page of a listing; an empty prefix or marker is not sent. -/
def listPage (start : Name) (r : PageRequest) : Exchange σ Page := do
  match ← send client (.list (nonEmpty start) (r.marker.bind nonEmpty) r.maxResults) Fault.error with
  | none => return ⟨[], []⟩
  | some s => return ⟨s.names, s.token.getD []⟩

/-- Copies an object within the container and waits for the end. -/
def copy (source dest : Name) : Exchange σ Unit := do
  send client (.beginCopy dest (client.url source)) (Fault.about source)
  send client (.finishCopy dest) (Fault.about source)

def exchange : (c : Call) → Exchange σ c.Reply
  | .get key => do
    let stream ← download client key (.ofNat 0)
    liftExcept stream.drain
  | .read key offset => download client key offset
  | .put key data => send client (.upload key data) Fault.error
  | .properties key => properties client key
  | .exists key => send client (.exists key) Fault.error
  | .deleteIfExists key => send client (.deleteIfExists key) Fault.error
  | .delete key => send client (.delete key) (Fault.about key)
  | .listPage start request => listPage client start request
  | .createAppendable key => send client (.createAppendable key) Fault.error
  | .appendChunk key data => send client (.appendBlock key data) Fault.error
  | .copy source dest => copy client source dest
  | .createContainer => send client .createContainer Fault.error
where
  liftExcept {α : Type} : Except StoreError α → Exchange σ α
    | .ok a => pure a
    | .error e => throw e

/-- The store over a client; before it is connected every call fails. -/
def backend : Backend (Link σ) where
  maxPutSize := .ofNat maxPutSize
  maxAppendSize := .ofNat maxAppendSize
  answer l c :=
    if l.connected then
      let (reply, s) := exchange client c l.client
      (reply, { l with client := s })
    else (.error .notConnected, l)

end Cloud
end BlobTree
