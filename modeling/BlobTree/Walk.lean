import BlobTree.Action
import BlobTree.Entry

/-!
# BlobTree.Walk

Visiting a tree depth first, the children of a directory in order. The walk needs two operations,
listing a directory and looking at a path; a child that has gone by the time it is looked at is
passed over.

* `Walk.visitBelow` gives up below a given depth, because a store can hold keys that make a directory
  its own child.
-/

namespace BlobTree

/-- What a walk needs to know of a tree. -/
structure Walk (σ : Type) where
  list : Name → Action σ (List Name)
  stat : Name → Action σ Entry

/-- What a visitor decides about a directory. -/
inductive Visit where
  | enter
  | skip
  deriving DecidableEq, Inhabited

namespace Walk

variable {σ : Type}

/-- Visits everything below a directory, at most `depth` levels down. -/
def visitBelow (t : Walk σ) (visit : Entry → Action σ Visit) (logger : Option Logger) :
    (depth : Nat) → Name → Action σ Unit
  | 0, _ => Action.unfinished
  | depth + 1, dir => do
    let children ← t.list dir
    (children.mergeSort Units.le).forM fun child => do
      match ← Action.attempt (t.stat child) with
      | .error (.pathNotFound _) =>
        logger.forM fun l =>
          Action.log l .info [("path", .text (String.ofList child))] "ignoring deleted path"
      | .error f => Action.fail f
      | .ok entry =>
        let decision ← visit entry
        if entry.isDirectory ∧ decision ≠ .skip then visitBelow t visit logger depth child

end Walk
end BlobTree
