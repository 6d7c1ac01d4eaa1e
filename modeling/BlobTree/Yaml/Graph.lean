import BlobTree.Settings.Value
import BlobTree.Text.Units

/-!
# BlobTree.Yaml.Graph

The values of a document while it is read. An alias stands for a node itself, which may be a
collection that is still being read, so collections lie in cells and a value names its cell. Two
values with one cell are one collection, and a collection can hold itself.

* `Graph.value`: a value as it looks from outside, with collections unfolded down to a depth.
-/

namespace BlobTree
namespace Yaml

inductive Item where
  | null
  | flag (b : Bool)
  | number (n : Number)
  | text (s : String)
  /-- Milliseconds since the beginning of 1970. -/
  | moment (time : Int)
  | bytes (data : List Nat)
  | list (cell : Nat)
  | record (cell : Nat)
  deriving DecidableEq, Inhabited

/-- The contents of all cells, those of lists and those of records apart. -/
structure Graph where
  lists : Array (List Item) := #[]
  records : Array (List (String × Item)) := #[]
  deriving Inhabited

namespace Graph

def items (g : Graph) (cell : Nat) : List Item :=
  g.lists[cell]?.getD []

def fields (g : Graph) (cell : Nat) : List (String × Item) :=
  g.records[cell]?.getD []

def addList (g : Graph) (items : List Item) : Nat × Graph :=
  (g.lists.size, { g with lists := g.lists.push items })

def addRecord (g : Graph) (fields : List (String × Item)) : Nat × Graph :=
  (g.records.size, { g with records := g.records.push fields })

def push (g : Graph) (cell : Nat) (item : Item) : Graph :=
  { g with lists := g.lists.modify cell (· ++ [item]) }

/-- Sets a field, at its place if the name is there and at the end if not. -/
def setField (fields : List (String × Item)) (name : String) (item : Item) :
    List (String × Item) :=
  if fields.any (·.1 = name) then
    fields.map fun (n, old) => if n = name then (n, item) else (n, old)
  else fields ++ [(name, item)]

def put (g : Graph) (cell : Nat) (name : String) (item : Item) : Graph :=
  { g with records := g.records.modify cell (setField · name item) }

/-- What a value looks like from outside; collections below the depth look empty. -/
def value (g : Graph) : (depth : Nat) → Item → Value
  | _, .null => .null
  | _, .flag b => .flag b
  | _, .number n => .number n
  | _, .text s => .text s
  | _, .moment _ => .date
  | _, .bytes _ => .bytes
  | 0, .list _ => .list []
  | 0, .record _ => .record []
  | d + 1, .list cell => .list ((g.items cell).map (g.value d))
  | d + 1, .record cell => .record ((g.fields cell).map fun (n, x) => (n, g.value d x))

end Graph
end Yaml
end BlobTree
