import BlobTree.Store.Memory

/-!
# BlobTree.Store.Disturbed

A memory store that other clients change between two calls, and that can be made to refuse a
call. A disturbance waits for a call of its kind; when its turn comes it is used up.

* `Disturbance.strike`: other clients act, then the call is refused, answered with a given page
  or answered by the store, and after an answer by the store the other clients act again.
-/

namespace BlobTree

inductive CallKind where
  | get | read | put | properties | exists | deleteIfExists | delete | listPage
  | createAppendable | appendChunk | copy | createContainer
  deriving DecidableEq, Inhabited

def Call.kind : Call → CallKind
  | .get _ => .get
  | .read _ _ => .read
  | .put _ _ => .put
  | .properties _ => .properties
  | .exists _ => .exists
  | .deleteIfExists _ => .deleteIfExists
  | .delete _ => .delete
  | .listPage _ _ => .listPage
  | .createAppendable _ => .createAppendable
  | .appendChunk _ _ => .appendChunk
  | .copy _ _ => .copy
  | .createContainer => .createContainer

/-- What another client does to the store, at once and without failing. -/
inductive Mutation where
  | delete (key : Name)
  | seed (key : Name) (data : Bytes) (kind : ObjectKind)
  deriving DecidableEq

def Mutation.apply (o : Memory.Options) (m : Memory) : Mutation → Memory
  | .delete key => m.remove key
  | .seed key data kind => m.write o key data kind

structure Disturbance where
  on : CallKind
  /-- How many calls of the kind pass first. -/
  skip : Nat := 0
  before : List Mutation := []
  refusal : Option StoreError := none
  /-- A listing page to answer with in place of the store's. -/
  page : Option Page := none
  after : List Mutation := []

structure Disturbed where
  memory : Memory
  waiting : List Disturbance := []

namespace Disturbance

def mutate (o : Memory.Options) (m : Memory) (ms : List Mutation) : Memory :=
  ms.foldl (Mutation.apply o) m

/-- The page to answer with, for a call that is owed one. -/
def pageFor (d : Disturbance) : (c : Call) → Option c.Reply
  | .listPage _ _ => d.page
  | _ => none

def strike (o : Memory.Options) (d : Disturbance) (m : Memory) (c : Call) :
    Except StoreError c.Reply × Memory :=
  let m := mutate o m d.before
  match d.refusal, d.pageFor c with
  | some e, _ => (.error e, m)
  | none, some page => (.ok page, m)
  | none, none =>
    match m.step o c with
    | (.ok reply, m) => (.ok reply, mutate o m d.after)
    | (.error e, m) => (.error e, m)

/-- The first disturbance waiting for a kind of call: taken out if its turn has come, else one
call closer to it. -/
def next (kind : CallKind) : List Disturbance → Option Disturbance × List Disturbance
  | [] => (none, [])
  | d :: rest =>
    if d.on = kind then
      if d.skip = 0 then (some d, rest) else (none, { d with skip := d.skip - 1 } :: rest)
    else
      let (found, rest) := next kind rest
      (found, d :: rest)

end Disturbance

def Memory.disturbedBackend (o : Memory.Options) : Backend Disturbed where
  maxPutSize := o.maxPutSize
  maxAppendSize := o.maxAppendSize
  answer s c :=
    let (found, waiting) := Disturbance.next c.kind s.waiting
    let (reply, memory) := match found with
      | some d => d.strike o s.memory c
      | none => s.memory.step o c
    (reply, { memory, waiting })

end BlobTree
