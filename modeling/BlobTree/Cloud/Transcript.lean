import BlobTree.Cloud.Store

/-!
# BlobTree.Cloud.Transcript

A client that keeps, for every request, the reply that it got, in order.

* `Exchanged.fault?`, `Exchanged.stream?`, `Exchanged.names`: what a reply holds.
* `Exchanged.Missing`, `Exchanged.Undescribed`: refusals that say that there is no object.
-/

namespace BlobTree
namespace Cloud

/-- One request and its reply. -/
structure Exchanged where
  request : Request
  reply : Except Fault request.Reply

/-- A client and what has been asked through it so far. -/
structure Transcript (σ : Type) where
  client : σ
  exchanges : List Exchanged := []

variable {σ : Type}

def Client.transcribed (c : Client σ) : Client (Transcript σ) where
  answer t r :=
    let (reply, client) := c.answer t.client r
    (reply, { client, exchanges := t.exchanges ++ [⟨r, reply⟩] })
  url := c.url

/-- The service has refused with status 404. -/
def Fault.Absent (f : Fault) : Prop :=
  ∃ message, f = .rest 404 message

theorem Fault.about_of_not_absent {f : Fault} (h : ¬f.Absent) (key : Name) :
    f.about key = f.error := by
  unfold about
  split
  · exact absurd ⟨_, rfl⟩ h
  · rfl

/-- Requests that need an object to be there and do something with it. -/
def Request.seeks : Request → Bool
  | .download _ _ | .delete _ | .beginCopy _ _ | .finishCopy _ => true
  | _ => false

def Request.describes : Request → Bool
  | .describe _ => true
  | _ => false

theorem Request.describes_of_seeks {r : Request} (h : r.seeks) : r.describes = false := by
  cases r <;> first | rfl | cases h

def Request.stream? : (r : Request) → Except Fault r.Reply → Option ByteStream
  | .download _ _, .ok stream => stream
  | _, _ => none

theorem Request.stream?_of_not_seeks {r : Request} (h : r.seeks = false)
    (reply : Except Fault r.Reply) : r.stream? reply = none := by
  cases r <;> first | rfl | cases h

def Request.names : (r : Request) → Except Fault r.Reply → List Name
  | .list _ _ _, .ok (some segment) => segment.names
  | _, _ => []

def Request.isDelete : Request → Bool
  | .delete _ => true
  | _ => false

namespace Exchanged

def fault? (e : Exchanged) : Option Fault :=
  match e.reply with
  | .ok _ => none
  | .error f => some f

def stream? (e : Exchanged) : Option ByteStream :=
  e.request.stream? e.reply

def names (e : Exchanged) : List Name :=
  e.request.names e.reply

/-- The service has said that there is no object. -/
def Absent (e : Exchanged) : Prop :=
  ∃ f, e.fault? = some f ∧ f.Absent

@[simp] theorem absent_error {q : Request} {f : Fault} :
    (⟨q, .error f⟩ : Exchanged).Absent ↔ f.Absent :=
  ⟨fun ⟨_, hf, h⟩ => by cases hf; exact h, fun h => ⟨f, rfl, h⟩⟩

/-- There is no object where there has to be one. -/
def Missing (e : Exchanged) : Prop :=
  e.request.seeks ∧ e.Absent

/-- There is no object to describe. -/
def Undescribed (e : Exchanged) : Prop :=
  e.request.describes ∧ e.Absent

theorem stream?_of_fault {e : Exchanged} {f : Fault} (h : e.fault? = some f) :
    e.stream? = none := by
  obtain ⟨q, f' | a⟩ := e
  · cases q <;> rfl
  · cases h

theorem fault?_of_stream {e : Exchanged} {s : ByteStream} (h : e.stream? = some s) :
    e.fault? = none := by
  cases hfault : e.fault? with
  | none => rfl
  | some f =>
    rw [stream?_of_fault hfault] at h
    cases h

theorem Missing.not_undescribed {e : Exchanged} (h : e.Missing) : ¬e.Undescribed := by
  intro h'
  have hdescribes := h'.1
  rw [Request.describes_of_seeks h.1] at hdescribes
  cases hdescribes

/-- A download of an object has come without a body. -/
def Bodiless (e : Exchanged) (key : Name) : Prop :=
  ∃ offset, e = ⟨.download key offset, .ok none⟩

end Exchanged
end Cloud
end BlobTree
