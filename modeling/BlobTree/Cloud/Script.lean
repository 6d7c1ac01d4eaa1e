import BlobTree.Cloud.Client

/-!
# BlobTree.Cloud.Script

A client that answers from a script. Every request takes the next response, whatever it says of
things that the request does not ask for; when the script is at its end the responses are empty.

* `Script.client`: the scripted client. It keeps every request, in order.
-/

namespace BlobTree
namespace Cloud

/-- One response of the script: a fault, or the fields that requests may ask for. -/
structure Response where
  fault : Option Fault := none
  body : Option (List Bytes) := none
  streamError : Option String := none
  description : Description := {}
  value : Bool := false
  names : Option (List Name) := none
  token : Option Name := none
  deriving Inhabited

structure Script where
  responses : List Response := []
  /-- What was asked so far: steps of setting up and requests. -/
  asked : List (Setup ⊕ Request) := []

namespace Script

/-- What a response says to a request. -/
def reply (x : Response) : (r : Request) → r.Reply
  | .download _ _ => x.body.map fun chunks => { chunks, fault := x.streamError }
  | .describe _ => x.description
  | .exists _ => x.value
  | .deleteIfExists _ => x.value
  | .list _ _ _ => x.names.map fun names => ⟨names, x.token⟩
  | .createContainer => ()
  | .delete _ => ()
  | .beginCopy _ _ => ()
  | .finishCopy _ => ()
  | .upload _ _ => ()
  | .createAppendable _ => ()
  | .appendBlock _ _ => ()

def client (base : Name) : Client Script where
  answer s r :=
    let x := s.responses.head?.getD {}
    let s := { responses := s.responses.drop 1, asked := s.asked ++ [.inr r] }
    match x.fault with
    | some f => (.error f, s)
    | none => (.ok (reply x r), s)
  url key := base ++ key

def connect (s : Script) (credentials : Credentials) (container : String) : Script :=
  { s with asked := s.asked ++ (setup credentials container).map .inl }

end Script
end Cloud
end BlobTree
