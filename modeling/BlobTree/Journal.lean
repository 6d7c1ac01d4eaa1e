import BlobTree.Number.Decimal

/-!
# BlobTree.Journal

What the library reports while it works. A logger has a threshold and a context; a record that
reaches the threshold is written with the context's fields before its own.
-/

namespace BlobTree

/-- Severity of a record; as a threshold, `silent` lets nothing through. -/
inductive Level where
  | trace
  | debug
  | info
  | warn
  | error
  | fatal
  | silent
  deriving DecidableEq, Repr, Inhabited

namespace Level

def severity : Level → Nat
  | .trace => 10
  | .debug => 20
  | .info => 30
  | .warn => 40
  | .error => 50
  | .fatal => 60
  | .silent => 70

def name : Level → String
  | .trace => "trace"
  | .debug => "debug"
  | .info => "info"
  | .warn => "warn"
  | .error => "error"
  | .fatal => "fatal"
  | .silent => "silent"

/-- All levels, the most severe first. -/
def all : List Level :=
  [.fatal, .error, .warn, .info, .debug, .trace, .silent]

def ofName? (s : String) : Option Level :=
  all.find? (·.name = s)

end Level

inductive Field where
  | text (s : String)
  | number (n : Number)
  | flag (b : Bool)
  deriving DecidableEq, Inhabited

abbrev Fields := List (String × Field)

structure Record where
  level : Level
  fields : Fields
  message : String
  deriving DecidableEq, Inhabited

structure Logging where
  level : Level := .info
  pretty : Bool := false
  deriving DecidableEq, Inhabited

structure Journal where
  records : List Record := []
  /-- The settings with which the root logger was replaced, in order. -/
  replaced : List Logging := []
  deriving DecidableEq, Inhabited

structure Logger where
  threshold : Level
  context : Fields := []
  deriving DecidableEq, Inhabited

namespace Logger

/-- A logger that adds fields to those of its parent. -/
def child (l : Logger) (fields : Fields) : Logger :=
  { l with context := l.context ++ fields }

def write (l : Logger) (level : Level) (fields : Fields) (message : String) (j : Journal) :
    Journal :=
  if l.threshold.severity ≤ level.severity then
    { j with records := j.records ++ [⟨level, l.context ++ fields, message⟩] }
  else j

end Logger
end BlobTree
