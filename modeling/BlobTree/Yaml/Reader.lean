import BlobTree.Yaml.Meaning
import BlobTree.Yaml.Scalar

/-!
# BlobTree.Yaml.Reader

Steps that read a document: where they stand, which values there are, and what anchors and tag
handles stand for. A step has no result if the document is not well formed.
-/

namespace BlobTree
namespace Yaml

inductive Context where
  | flowIn
  | flowOut
  | blockIn
  | blockOut
  deriving DecidableEq

def Context.isBlock : Context → Bool
  | .blockIn | .blockOut => true
  | _ => false

/-- What has been read so far of a document. -/
structure Reading where
  cursor : Cursor
  graph : Graph := {}
  anchors : List (Name × Item) := []
  /-- Tag handles and what they stand for. -/
  handles : List (Name × Name) := []

/-- A step of the reader; it has no result if the document is not well formed. -/
abbrev Reader := StateT Reading Option

structure Node where
  tag : Option Name := none
  kind : Option Kind := none
  value : Item := .null
  /-- Whether a tag, an anchor or content is there. -/
  present : Bool := false
  deriving Inhabited

/-- A line's indentation against that of the surrounding node. -/
inductive Depth where
  | deeper
  | same
  | outside
  deriving DecidableEq

namespace Reader

def cursor : Reader Cursor := return (← get).cursor

def place (c : Cursor) : Reader Unit :=
  modify fun r => { r with cursor := c }

def step : Reader Unit := do place (← cursor).step

def peek : Reader (Option Char) := return (← cursor).peek

def check (b : Bool) : Reader Unit :=
  if b then pure () else failure

/-- Passes blanks, comments and line breaks; whether there was a line break. -/
def pass : Reader Bool := do
  let (k, c) := (← cursor).pass true
  place c
  return k ≠ 0

def depth (parent : Int) : Reader Depth := do
  let indent : Int := (← cursor).indent
  return if parent < indent then .deeper else if indent = parent then .same else .outside

def setAnchor (anchor : Option Name) (v : Item) : Reader Unit :=
  anchor.forM fun a => modify fun r => { r with anchors := (a, v) :: r.anchors }

/-- Takes a step that only adds collections. -/
def build {α : Type} (b : Build α) : Reader α := do
  let r ← get
  match b r.graph with
  | some (a, graph) =>
    set { r with graph }
    return a
  | none => failure

/-- A new cell for a list, which an anchor stands for from the beginning. -/
def newList (anchor : Option Name) : Reader Nat := do
  let (cell, graph) := (← get).graph.addList []
  modify fun r => { r with graph }
  setAnchor anchor (.list cell)
  return cell

/-- A new cell for a record, which an anchor stands for from the beginning. -/
def newRecord (anchor : Option Name) : Reader Nat := do
  let (cell, graph) := (← get).graph.addRecord []
  modify fun r => { r with graph }
  setAnchor anchor (.record cell)
  return cell

def push (cell : Nat) (item : Item) : Reader Unit :=
  modify fun r => { r with graph := r.graph.push cell item }

def scan (s : Cursor → Scan) : Reader (Option Item) := do
  match s (← cursor) with
  | none => failure
  | some none => return none
  | some (some (text, c)) =>
    place c
    return some (.text (String.ofList text))

end Reader
end Yaml
end BlobTree
