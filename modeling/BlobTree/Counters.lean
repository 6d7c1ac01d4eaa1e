import BlobTree.KeyMap
import BlobTree.Number.Decimal
import BlobTree.Text.Units

/-!
# BlobTree.Counters

Counters and gauges, each under a name and perhaps labels. The labels are written after the name
in braces, in the order that the host has for their names, and that text is the key.

* `countAt_addAt`: what is added to a key leaves every other.
* `Counters.run`: updates one after another.
-/

namespace BlobTree

abbrev Labels := List (Name × Name)

structure Counters where
  counts : KeyMap Number := {}
  gauges : KeyMap Number := {}
  deriving DecidableEq, Inhabited

namespace Counters

def empty : Counters where
  counts := .empty
  gauges := .empty

def key (order : NameOrder) (name : Name) : Option Labels → Name
  | none => name
  | some labels =>
    let sorted := labels.mergeSort fun a b => order.le a.1 b.1
    let written := sorted.map fun (k, v) => k ++ '=' :: v
    name ++ '\x7b' :: List.intercalate [','] written ++ ['\x7d']

/-- Zero stands for what is not there and for what is no number. -/
def known : Option Number → Number
  | none | some .nan => .ofNat 0
  | some n => n

theorem known_of_ne_nan {n : Number} (h : n ≠ .nan) : known (some n) = n := by
  cases n with
  | nan => exact absurd rfl h
  | _ => rfl

def countAt (c : Counters) (k : Name) : Number :=
  known (c.counts.get? k)

def addAt (c : Counters) (k : Name) (amount : Number) : Counters :=
  { c with counts := c.counts.insert k ((c.countAt k).plus amount) }

section Order

variable (order : NameOrder) (c : Counters) (name : Name)

def increment (amount : Number) (labels : Option Labels) : Counters :=
  c.addAt (key order name labels) amount

/-- A duration adds to the counter of the name with `.ms` after it. -/
def timing (duration : Number) (labels : Option Labels) : Counters :=
  c.addAt (key order (name ++ ['.', 'm', 's']) labels) duration

def gauge (value : Number) (labels : Option Labels) : Counters :=
  { c with gauges := c.gauges.insert (key order name labels) value }

def count (labels : Option Labels) : Number :=
  c.countAt (key order name labels)

def gaugeValue (labels : Option Labels) : Number :=
  known (c.gauges.get? (key order name labels))

end Order

/-- What can be done to counters and gauges. -/
inductive Update where
  | increment (name : Name) (amount : Number) (labels : Option Labels)
  | gauge (name : Name) (value : Number) (labels : Option Labels)
  | timing (name : Name) (duration : Number) (labels : Option Labels)
  | reset
  deriving DecidableEq, Inhabited

def step (order : NameOrder) (c : Counters) : Update → Counters
  | .increment name amount labels => c.increment order name amount labels
  | .gauge name value labels => c.gauge order name value labels
  | .timing name duration labels => c.timing order name duration labels
  | .reset => empty

def run (order : NameOrder) (us : List Update) : Counters :=
  us.foldl (step order) empty

theorem countAt_addAt (c : Counters) (k k' : Name) (amount : Number) :
    (c.addAt k amount).countAt k' =
      if k' = k then known (some ((c.countAt k).plus amount)) else c.countAt k' := by
  simp only [countAt, addAt, KeyMap.get?_insert]
  split <;> simp_all

end Counters
end BlobTree
