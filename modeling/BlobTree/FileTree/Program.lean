import BlobTree.FileTree.Operation
import BlobTree.Writer.Request

/-!
# BlobTree.FileTree.Program

What a client does with a tree. It carries out operations and walks, calls the sessions that its
operations have opened, in any order and as long as it likes, and decides what comes next from all
that it has been told. The store is known to it through the tree alone.

* `Program`: what a client may do; `Program.run`: what comes of it.
* `Program.inTurn`: one thing after another, whatever each one ends with.
-/

namespace BlobTree

/-- A client at work on a store. -/
structure Desk (σ κ : Type) where
  store : σ
  /-- The sessions that have been opened, the first one first. -/
  sessions : List Writer := []
  /-- What the client keeps for itself. -/
  notes : κ
  deriving DecidableEq

/-- The store of a client's desk. -/
def Backend.onDesk {σ κ : Type} (b : Backend σ) : Backend (Desk σ κ) where
  maxPutSize := b.maxPutSize
  maxAppendSize := b.maxAppendSize
  answer d c :=
    let (reply, store) := b.answer d.store c
    (reply, { d with store })

namespace FileTree

/-- A client whose notes are of a given type. -/
inductive Program (κ : Type) : Type → Type 1 where
  /-- Something of the client's own, which may look at the sessions and fail. -/
  | own {α : Type} (f : List Writer → κ → Except Failure α × κ) : Program κ α
  | ask (q : Operation) : Program κ Answer
  /-- A call on the session that was opened after `n` others. -/
  | session (n : Nat) (q : Writer.Request) : Program κ Nat
  | walk (path : Name) (visit : Entry → Program κ Visit) : Program κ Unit
  | attempt {α : Type} (p : Program κ α) : Program κ (Except Failure α)
  | bind {α β : Type} (p : Program κ α) (f : α → Program κ β) : Program κ β

namespace Program

variable {σ κ α : Type}

/-- Does one thing after another and keeps what each one ends with. -/
def inTurn : List (Program κ α) → Program κ (List (Except Failure α))
  | [] => .own fun _ notes => (.ok [], notes)
  | p :: rest => .bind (.attempt p) fun r =>
    .bind (inTurn rest) fun rs => .own fun _ notes => (.ok (r :: rs), notes)

variable (t : FileTree) (b : Backend σ)

/-- Something that the store does not take part in. -/
def aside (f : List Writer → κ → Except Failure α × κ) : Action (Desk σ κ) α :=
  .of fun w =>
    let (r, notes) := f w.store.sessions w.store.notes
    (r.mapError .failed, { w with store := { w.store with notes } })

/-- Adds the session of an answer to those that have been opened. -/
def keep (a : Answer) : Action (Desk σ κ) Answer :=
  .of fun w =>
    (.ok a, { w with store := { w.store with sessions := w.store.sessions ++ a.session?.toList } })

/-- A call on an opened session, which takes the place of the session before the call. -/
def callSession (n : Nat) (q : Writer.Request) : Action (Desk σ κ) Nat :=
  .of fun w =>
    match w.store.sessions[n]? with
    | none => (.error (.failed (.raised "no such session")), w)
    | some s =>
      let (r, s, w) := s.perform b.onDesk q w
      (r.mapError .failed,
        { w with store := { w.store with sessions := w.store.sessions.set n s } })

/-- Does what the program says, on a desk with the store. -/
def run {α : Type} : Program κ α → Action (Desk σ κ) α
  | .own f => aside f
  | .ask q => do keep (← t.carryOut b.onDesk q)
  | .session n q => callSession b n q
  | .walk path visit => t.walk b.onDesk path fun e => (visit e).run
  | .attempt p => Action.attempt p.run
  | .bind p f => do (f (← p.run)).run

end Program
end FileTree
end BlobTree
