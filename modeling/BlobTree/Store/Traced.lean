import BlobTree.Store.Call

/-!
# BlobTree.Store.Traced

A backend that keeps, for every call, the state it was asked in and the answer it got, in order.

* `traced_answer`: tracing changes neither the answer nor the store.
* `Event.keys`: the keys a listing call was answered with.
-/

namespace BlobTree

structure Event (σ : Type) where
  /-- The store when it was asked. -/
  before : σ
  call : Call
  reply : Except StoreError call.Reply

/-- A store and what has happened on it so far. -/
structure Traced (σ : Type) where
  store : σ
  events : List (Event σ) := []

def Call.listedKeys : (c : Call) → Except StoreError c.Reply → List Name
  | .listPage _ _, .ok page => page.keys
  | _, _ => []

/-- The keys a call was answered with; none unless it asked for a page of a listing. -/
def Event.keys {σ : Type} (e : Event σ) : List Name :=
  Call.listedKeys e.call e.reply

namespace Backend

variable {σ : Type}

def traced (b : Backend σ) : Backend (Traced σ) where
  maxPutSize := b.maxPutSize
  maxAppendSize := b.maxAppendSize
  answer t c :=
    let (reply, store) := b.answer t.store c
    (reply, { store, events := t.events ++ [⟨t.store, c, reply⟩] })

theorem traced_answer (b : Backend σ) (t : Traced σ) (c : Call) :
    b.traced.answer t c = ((b.answer t.store c).1,
      ⟨(b.answer t.store c).2, t.events ++ [⟨t.store, c, (b.answer t.store c).1⟩]⟩) := rfl

end Backend
end BlobTree
