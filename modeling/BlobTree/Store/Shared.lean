import BlobTree.Store.Disturbed

/-!
# BlobTree.Store.Shared

A memory store that other clients use too. What they do between two calls of ours is a list of
calls of their own and of changes made at once; they do the first list after our first call, the
second after our second, and nothing once the lists are used up.

* `Memory.sharedBackend`: a call is answered from the objects that are there when it is made.
-/

namespace BlobTree

inductive Foreign where
  | call (c : Call)
  | mutate (change : Mutation)

def Foreign.apply (o : Memory.Options) (m : Memory) : Foreign → Memory
  | .call c => (m.step o c).2
  | .mutate change => change.apply o m

/-- A memory and what the other clients are going to do. -/
structure Shared where
  memory : Memory
  coming : List (List Foreign) := []

/-- The other clients have their turn. -/
def Shared.interlude (o : Memory.Options) (s : Shared) : Shared where
  memory := (s.coming.head?.getD []).foldl (Foreign.apply o) s.memory
  coming := s.coming.tail

def Memory.sharedBackend (o : Memory.Options) : Backend Shared where
  maxPutSize := o.maxPutSize
  maxAppendSize := o.maxAppendSize
  answer s c :=
    let (reply, memory) := s.memory.step o c
    (reply, { s with memory }.interlude o)

end BlobTree
