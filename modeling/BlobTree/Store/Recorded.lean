import BlobTree.Store.Call

/-!
# BlobTree.Store.Recorded

A backend that keeps the list of the calls it was asked, in order, whatever the store below it
answers.
-/

namespace BlobTree

/-- A store and the calls made on it so far. -/
structure Recorded (σ : Type) where
  store : σ
  calls : List Call := []

namespace Backend

variable {σ : Type}

def recorded (b : Backend σ) : Backend (Recorded σ) where
  maxPutSize := b.maxPutSize
  maxAppendSize := b.maxAppendSize
  answer r c :=
    let (reply, store) := b.answer r.store c
    (reply, { store, calls := r.calls ++ [c] })

end Backend
end BlobTree
