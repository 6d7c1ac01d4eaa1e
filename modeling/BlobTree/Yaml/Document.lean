import BlobTree.Yaml.Node

/-!
# BlobTree.Yaml.Document

A text as a YAML document: directives, a node, and the marks that separate documents. The value of
a text is that of its only document, `absent` if it has none, and there is none at all if the text
is not well formed or holds several documents.

* `Yaml.read?`: the value of a text.
-/

namespace BlobTree
namespace Yaml

open Reader

namespace Directive

def words : (steps : Nat) → Cursor → List Name × Cursor
  | 0, c => ([], c)
  | n + 1, c =>
    let c := c.passWhile isBlank
    match c.peek with
    | none => ([], c)
    | some x =>
      if x = '#' then ([], c.passWhile (!isBreak ·))
      else if isBreak x then ([], c)
      else
        let word := c.rest.takeWhile (!isSpace ·)
        let (more, c) := words n (c.steps word.length)
        (word :: more, c)

/-- A version `1.` and any digits. -/
def isVersion (s : Name) : Bool :=
  match s.splitOn '.' with
  | [major, minor] =>
    Number.natOf? 10 major = some 1 && !minor.isEmpty && minor.all Char.isDigit
  | _ => false

/-- What directives have said so far: whether there was one, and whether one gave the version. -/
structure Seen where
  some : Bool := false
  version : Bool := false

/-- Reads a directive after its percent sign. Directives that are not known say nothing. -/
def read (seen : Seen) : Reader Seen := do
  let c ← cursor
  let name := c.rest.takeWhile (!isSpace ·)
  let (args, c) := words (c.rest.length + 1) (c.steps name.length)
  check (!name.isEmpty)
  place (c.lineBreak?.getD c)
  if name = "YAML".toList then
    check (!seen.version)
    match args with
    | [version] =>
      check (isVersion version)
      return ⟨true, true⟩
    | _ => failure
  else if name = "TAG".toList then
    match args with
    | [handle, start] =>
      check (Tag.isHandle handle && !start.isEmpty)
      check ((← get).handles.lookup handle).isNone
      let start ← (Tag.name? start).elim failure pure
      modify fun r => { r with handles := (handle, start) :: r.handles }
      return { seen with some := true }
    | _ => failure
  else return { seen with some := true }

/-- Reads the directives of a document, if it has any; whether it has. -/
def readAll : (steps : Nat) → Seen → Reader Bool
  | 0, seen => return seen.some
  | n + 1, seen => do
    if (← peek).isNone then return seen.some
    let _ ← pass
    let c ← cursor
    if c.indent > 0 ∨ c.peek ≠ Option.some '%' then return seen.some
    step
    readAll n (← read seen)

end Directive

def maxDepth : Nat := 100

/-- Reads a document and the mark after it. -/
def readDocument : Reader Item := do
  modify fun r => { r with anchors := [], handles := [] }
  let directed ← Directive.readAll ((← cursor).rest.length + 1) {}
  let _ ← pass
  let c ← cursor
  if c.indent = 0 ∧ c.rest.take 3 = ['-', '-', '-'] then
    place (c.steps 3)
    let _ ← pass
  else check !directed
  let node ← Node.read maxDepth (((← cursor).indent : Int) - 1) .blockOut false true
  let _ ← pass
  let c ← cursor
  if c.atSeparator then
    if c.peek = some '.' then
      place (c.steps 3)
      let _ ← pass
  else check (c.rest.length < 2)
  return node.value

def readDocuments : (steps : Nat) → Reader (List Item)
  | 0 => failure
  | n + 1 => do
    if (← cursor).rest.length < 2 then return []
    let v ← readDocument
    return v :: (← readDocuments n)

/-- A text with a line break at its end and without a byte order mark. -/
def prepared (s : Name) : Name :=
  let s := if s.isEmpty ∨ s.getLast?.any isBreak then s else s ++ ['\n']
  if s.head? = some '\ufeff' then s.drop 1 else s

/-- The value of a text, with collections unfolded down to a depth. -/
def read? (depth : Nat) (text : Name) : Option Value := do
  let s := prepared text
  if s.contains '\x00' then none
  else
    let (items, r) ← (readDocuments (s.length + 1)).run
      { cursor := ({ rest := s } : Cursor).indentation }
    match items with
    | [] => some .absent
    | [item] => some (r.graph.value depth item)
    | _ => none

end Yaml
end BlobTree
