import BlobTree.Yaml.Reader

/-!
# BlobTree.Yaml.Mapping

The fields of a mapping that is being read. Keys are texts, so a key of any other kind counts by
its text, and a field that is there may not be given again, unless it came by a merge.

* `Table.store`: what a pair of key and value does. Under the key `<<` the fields of a record, or
  of each in a list, are taken over as far as they are not there yet.
-/

namespace BlobTree
namespace Yaml

/-- The record being filled, and the fields in it that came by a merge. -/
structure Table where
  cell : Nat
  merged : List String := []

namespace Mapping

/-- An item of a list in a key; an item that is a list itself is refused. -/
def itemText? : Item → Option String
  | .null => some ""
  | .flag b => some (if b then "true" else "false")
  | .number n => some n.text
  | .text s => some s
  | .moment t => some (Moment.text t)
  | .bytes data => some (",".intercalate (data.map toString))
  | .record _ => some "[object Object]"
  | .list _ => none

def keyText? (g : Graph) : Item → Option String
  | .list cell => ((g.items cell).mapM itemText?).map (",".intercalate ·)
  | .null => some "null"
  | v => itemText? v

/-- The fields that a value brings into a merge: those of a record, or items by their numbers. -/
def source? (g : Graph) : Item → Option (List (String × Item))
  | .record cell => some (g.fields cell)
  | .list cell => some ((g.items cell).mapIdx fun i v => (toString i, v))
  | .bytes data => some (data.mapIdx fun i b => (toString i, .number (.ofNat b)))
  | .moment _ => some []
  | _ => none

/-- How many values one list can bring into a merge. -/
def maxSources : Nat := 20

end Mapping

open Mapping

namespace Table

/-- Takes over a field that is not there yet. -/
def mergeField (t : Table) (name : String) (item : Item) : Build Table := do
  if ((← get).fields t.cell).any (·.1 = name) then return t
  modify (·.put t.cell name item)
  return { t with merged := name :: t.merged }

def merge (t : Table) (source : Item) : Build Table := do
  let fields ← (source? (← get) source).elim failure pure
  fields.foldlM (fun t (name, item) => t.mergeField name item) t

def store (t : Table) (keyTag : Option Name) (key value : Item) : Build Table := do
  let name ← (keyText? (← get) key).elim failure pure
  if keyTag = some mergeTag then
    match value with
    | .list cell =>
      let sources := (← get).items cell
      if maxSources < sources.length then failure
      sources.foldlM merge t
    | v => t.merge v
  else
    let known := ((← get).fields t.cell).any (·.1 = name)
    if known ∧ ¬t.merged.contains name then failure
    modify (·.put t.cell name value)
    return { t with merged := t.merged.filter (· ≠ name) }

end Table
end Yaml
end BlobTree
