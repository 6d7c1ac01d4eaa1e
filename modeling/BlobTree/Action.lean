import BlobTree.Counters
import BlobTree.Failure
import BlobTree.Journal

/-!
# BlobTree.Action

Operations as actions on a world: the state of the store below, the journal, the counters, and the
host, which has its own order of names and its own clock. An action ends with a value, with a
failure, or unfinished, when a listing or a walk has used up the number of steps it was given; the
world it leaves behind is there in all three cases.

* `exec_bind`, `exec_pure`, `exec_fail`, `exec_call` and their kin: one equation per combinator,
  so that no proof needs to look inside.
-/

namespace BlobTree

/-- Why an action did not end with a value. -/
inductive Stop where
  | failed (f : Failure)
  | unfinished
  deriving DecidableEq, Inhabited

/-- What actions find where they run. -/
structure Host where
  /-- The alphabetical order. -/
  order : NameOrder := .units
  /-- How long the measured actions to come take, the one that ends first before the others; those
  after the last one take no time. -/
  durations : List Number := []

/-- The counters after a measured action has ended, how long it took among them, and the host. -/
def Host.settle (host : Host) (counters : Counters) (name : Name) (labels : Option Labels) :
    Counters × Host :=
  let duration := host.durations.headD (.ofNat 0)
  let timed := counters.timing host.order name duration labels
  (timed.increment host.order name (.ofNat 1) labels,
    { host with durations := host.durations.tail })

/-- What an action works on. -/
structure World (σ : Type) where
  store : σ
  journal : Journal := {}
  counters : Counters := {}
  host : Host := {}

/-- A store that nothing has been asked of yet. -/
def World.fresh {σ : Type} (store : σ) : World σ where
  store := store

abbrev Action (σ : Type) := ExceptT Stop (StateM (World σ))

namespace Action

variable {σ α β : Type}

def of (f : World σ → Except Stop α × World σ) : Action σ α := f

def exec (x : Action σ α) (w : World σ) : Except Stop α × World σ := x w

def fail (f : Failure) : Action σ α :=
  of fun w => (.error (.failed f), w)

def unfinished : Action σ α :=
  of fun w => (.error .unfinished, w)

/-- Asks the store. -/
def call (b : Backend σ) (c : Call) : Action σ c.Reply :=
  of fun w =>
    let (reply, store) := b.answer w.store c
    (reply.mapError fun e => .failed (.store e), { w with store })

/-- Ends with what a computation without effects gave. -/
def ofExcept : Except Failure α → Action σ α
  | .ok a => pure a
  | .error f => fail f

/-- Makes a failure a value. -/
def attempt (x : Action σ α) : Action σ (Except Failure α) :=
  of fun w =>
    match x.exec w with
    | (.ok a, w) => (.ok (.ok a), w)
    | (.error (.failed f), w) => (.ok (.error f), w)
    | (.error .unfinished, w) => (.error .unfinished, w)

def mapFailure (g : Failure → Failure) (x : Action σ α) : Action σ α :=
  of fun w =>
    match x.exec w with
    | (.error (.failed f), w) => (.error (.failed (g f)), w)
    | r => r

def log (l : Logger) (level : Level) (fields : Fields) (message : String) : Action σ Unit :=
  of fun w => (.ok (), { w with journal := l.write level fields message w.journal })

/-- The labels of the counter of failures: the status replaces one that was given where it stands,
else it comes last. -/
def failureLabels (labels : Option Labels) : Labels :=
  let given := labels.getD []
  let status := ("status".toList, "error".toList)
  if given.any (·.1 = status.1) then given.map fun l => if l.1 = status.1 then status else l
  else given ++ [status]

def settle (name : Name) (labels : Option Labels) (w : World σ) : World σ :=
  let (counters, host) := w.host.settle w.counters name labels
  { w with counters, host }

/-- Counts how an action ends: under its labels if it succeeds, with the status `error` added if it
fails. -/
def measured (name : Name) (x : Action σ α) (labels : Option Labels := none) : Action σ α :=
  of fun w =>
    match x.exec w with
    | (.ok a, w) => (.ok a, settle name labels w)
    | (.error (.failed f), w) =>
      (.error (.failed f), settle name (some (failureLabels labels)) w)
    | (.error .unfinished, w) => (.error .unfinished, w)

@[simp] theorem exec_of (f : World σ → Except Stop α × World σ) (w : World σ) :
    (of f).exec w = f w := rfl

@[simp] theorem exec_pure (a : α) (w : World σ) : exec (pure a) w = (.ok a, w) := rfl

@[simp] theorem exec_fail (f : Failure) (w : World σ) :
    exec (fail f : Action σ α) w = (.error (.failed f), w) := rfl

@[simp] theorem exec_unfinished (w : World σ) :
    exec (unfinished : Action σ α) w = (.error .unfinished, w) := rfl

theorem exec_bind (x : Action σ α) (f : α → Action σ β) (w : World σ) :
    exec (x >>= f) w =
      match x.exec w with
      | (.ok a, w') => (f a).exec w'
      | (.error s, w') => (.error s, w') := by
  show (ExceptT.bindCont f (x w).1) (x w).2 = _
  rcases h : x w with ⟨r, w'⟩
  rw [show x.exec w = (r, w') from h]
  cases r with
  | ok a => rfl
  | error s => rfl

theorem exec_call (b : Backend σ) (c : Call) (w : World σ) :
    exec (call b c) w =
      ((b.answer w.store c).1.mapError fun e => .failed (.store e),
        { w with store := (b.answer w.store c).2 }) := rfl

theorem exec_attempt (x : Action σ α) (w : World σ) :
    (attempt x).exec w =
      match x.exec w with
      | (.ok a, w') => (.ok (.ok a), w')
      | (.error (.failed f), w') => (.ok (.error f), w')
      | (.error .unfinished, w') => (.error .unfinished, w') := rfl

theorem exec_mapFailure (g : Failure → Failure) (x : Action σ α) (w : World σ) :
    (mapFailure g x).exec w =
      match x.exec w with
      | (.error (.failed f), w') => (.error (.failed (g f)), w')
      | r => r := rfl

theorem exec_log (l : Logger) (level : Level) (fields : Fields) (message : String) (w : World σ) :
    (log l level fields message).exec w =
      (.ok (), { w with journal := l.write level fields message w.journal }) := rfl

theorem exec_measured (name : Name) (x : Action σ α) (labels : Option Labels) (w : World σ) :
    (measured name x labels).exec w =
      match x.exec w with
      | (.ok a, w') => (.ok a, settle name labels w')
      | (.error (.failed f), w') =>
        (.error (.failed f), settle name (some (failureLabels labels)) w')
      | (.error .unfinished, w') => (.error .unfinished, w') := rfl

end Action
end BlobTree
