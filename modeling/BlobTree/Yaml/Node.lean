import BlobTree.Yaml.Mapping
import BlobTree.Yaml.Property

/-!
# BlobTree.Yaml.Node

The nodes of a document: scalars, sequences and mappings in block and in flow form, with their
tags and anchors, and aliases of nodes that came before.

A collection reads its parts through a function for nodes that it is handed, and `Node.read` hands
it itself with one step less, so collections nest only as deep as its first argument says.
-/

namespace BlobTree
namespace Yaml

open Reader

/-- What was found where a block mapping could stand. -/
inductive Found where
  /-- Nothing; `asked` says whether a key was looked for. -/
  | nothing (asked : Bool)
  /-- A node without a colon after it, which is not a key. -/
  | node (n : Node)
  | fields (cell : Nat)

structure Progress where
  fields : Table
  /-- A key with its mark `?` has been read, its value has not. -/
  explicit : Bool := false
  keyTag : Option Name := none
  key : Item := .null
  found : Bool := false

/-- Stores the key that was read, with a value. -/
def Progress.store (p : Progress) (value : Item) : Reader Progress := do
  let fields ← build (p.fields.store p.keyTag p.key value)
  return { p with fields, keyTag := none, key := .null }

/-- Stores the key that is waiting for a value. -/
def Progress.settle (p : Progress) : Reader Progress :=
  if p.explicit then p.store .null else return p

/-- How nodes are read: below an indentation, in a context, perhaps on a later line (`seek`), and
perhaps with a block collection that begins on the line of the mark before it (`compact`). -/
abbrev ReadNode := (parent : Int) → (ctx : Context) → (seek compact : Bool) → Reader Node

/-- The meaning of a scalar whose tag leaves it open. A number or bytes that have one already
cannot be given one again. -/
def resolve : Item → Reader (Option (Name × Item))
  | .text s => return implicit? s.toList
  | .null => return some (standardTag "null", .null)
  | .number (.finite _) | .bytes (_ :: _) => failure
  | _ => return none

/-- Gives a node its tag's meaning. The anchor stands for the node with its meaning; a node that
has none to be given stays under it as it is. -/
def finish (tag anchor : Option Name) (found : Node) : Reader Node := do
  let node (tag : Option Name) (value : Item) : Node :=
    { found with tag, value, present := found.present || tag.isSome || anchor.isSome }
  match tag with
  | none =>
    setAnchor anchor found.value
    return node none found.value
  | some t =>
    if t = ['?'] then
      check (found.value = .null || found.kind = some .scalar)
      match ← resolve found.value with
      | none => return node tag found.value
      | some (t, v) =>
        setAnchor anchor v
        return node (some t) v
    else if t = ['!'] then return node tag found.value
    else
      let v ← build (tagged t found.kind found.value)
      setAnchor anchor v
      return node tag v

def Node.ofKind (kind : Kind) (value : Item) : Node :=
  { kind := some kind, value, present := true }

section Collections

variable (readNode : ReadNode)

/-- Reads the items of a block sequence at a column into a cell; whether there were any. -/
def blockItems (column cell : Nat) : (steps : Nat) → (found : Bool) → Reader Bool
  | 0, _ => failure
  | n + 1, found => do
    let c ← cursor
    if c.peek.isNone then return found
    check !c.tabbed
    if c.peek ≠ some '-' ∨ !c.second.any isSpace then return found
    step
    let broke ← pass
    if broke ∧ (← cursor).indent ≤ column then
      push cell .null
      blockItems column cell n true
    else
      let line := (← cursor).line
      let item ← readNode column .blockIn false true
      push cell item.value
      let _ ← pass
      let c ← cursor
      if (c.line = line ∨ column < c.indent) ∧ c.peek.isSome then failure
      else if c.indent < column then return true
      else blockItems column cell n true

def blockSequence (column : Nat) (anchor : Option Name) : Reader (Option Item) := do
  let c ← cursor
  if c.tabbed then return none
  let cell ← newList anchor
  return if ← blockItems readNode column cell (c.rest.length + 1) false then some (.list cell)
    else none

/-- Reads what follows the mark of a key or of a value. -/
def blockValue (column : Nat) (compact : Bool) (p : Progress) : Reader Progress := do
  let v ← readNode column .blockOut true compact
  if p.explicit then return if v.present then { p with key := v.value } else p
  else p.store (if v.present then v.value else .null)

/-- Reads the pairs of a block mapping at a column. -/
def blockPairs (column : Nat) (flowIndent : Int) : (steps : Nat) → Progress → Reader Found
  | 0, _ => failure
  | n + 1, p => do
    let c ← cursor
    let done (asked : Bool) (p : Progress) : Reader Found := do
      let p ← p.settle
      return if p.found then .fields p.fields.cell else .nothing asked
    let next (compact : Bool) (p : Progress) : Reader Found := do
      let p ← blockValue readNode column compact p
      let _ ← pass
      let after ← cursor
      if (after.line = c.line ∨ column < after.indent) ∧ after.peek.isSome then failure
      else if after.indent < column then done true p
      else blockPairs column flowIndent n p
    if c.peek.isNone then return ← done false p
    check (p.explicit || !c.tabbed)
    if (c.peek = some '?' ∨ c.peek = some ':') ∧ c.second.any isSpace then
      let isKey := c.peek = some '?'
      check (isKey || p.explicit)
      let p ← if isKey then p.settle else pure p
      step
      next true { p with found := true, explicit := decide isKey }
    else
      let key ← readNode flowIndent .flowOut false true
      if !key.present then return ← done true p
      let after ← cursor
      let colon := after.passWhile isBlank
      if after.line = c.line ∧ colon.peek = some ':' then
        check (colon.second.any isSpace)
        place colon.step
        let p ← p.settle
        next false { p with found := true, explicit := false, keyTag := key.tag, key := key.value }
      else
        check !p.found
        if after.line = c.line then place colon
        return .node key

def blockMapping (column : Nat) (flowIndent : Int) (anchor : Option Name) : Reader Found := do
  let c ← cursor
  if c.tabbed then return .nothing false
  let cell ← newRecord anchor
  blockPairs readNode column flowIndent (c.rest.length + 1) { fields := { cell } }

/-- Reads a block mapping whose first key has the properties that begin at a place, if there is
one; nothing has happened if there is none. -/
def blockMappingFrom (start : Cursor) (flowIndent : Int) : Reader (Option Item) := do
  let before ← get
  place start
  match ← blockMapping readNode start.column flowIndent none with
  | .fields cell => return some (.record cell)
  | _ =>
    set before
    return none

/-- Reads an entry of a flow collection: the tag and the value of the key, and the value after a
colon, if there is one. -/
def flowEntry (indent : Int) : Reader (Option Name × Item × Option Item) := do
  let c ← cursor
  let explicit := c.peek = some '?' ∧ c.second.any isSpace
  if explicit then
    step
    let _ ← pass
  let line := (← cursor).line
  let key ← readNode indent .flowIn false true
  let _ ← pass
  let c ← cursor
  if (explicit ∨ c.line = line) ∧ c.peek = some ':' then
    step
    let _ ← pass
    let v ← readNode indent .flowIn false true
    return (key.tag, key.value, some v.value)
  else return (key.tag, key.value, if explicit then some .null else none)

/-- Reads the entries of a flow collection up to its closing mark and hands each to `add`; every
entry but the last has a comma after it. -/
def flowEntries {α : Type} (indent : Int) (closing : Char)
    (add : α → Option Name × Item × Option Item → Reader α) :
    (steps : Nat) → (ready : Bool) → α → Reader Unit
  | 0, _, _ => failure
  | n + 1, ready, done => do
    let _ ← pass
    if (← peek) = some closing then step
    else
      check (ready && (← peek) ≠ some ',')
      let done ← add done (← flowEntry readNode indent)
      let _ ← pass
      let comma := (← peek) = some ','
      if comma then step
      flowEntries indent closing add n comma done

/-- An entry of a flow sequence is an item, or a pair, which is a record of its own. -/
def addItem (cell : Nat) (_ : Unit) : Option Name × Item × Option Item → Reader Unit
  | (_, key, none) => push cell key
  | (keyTag, key, some v) => do
    let pair := { cell := ← newRecord none : Table }
    let _ ← build (pair.store keyTag key v)
    push cell (.record pair.cell)

def addPair (t : Table) : Option Name × Item × Option Item → Reader Table
  | (keyTag, key, v?) => build (t.store keyTag key (v?.getD .null))

/-- Reads a collection in brackets or braces, if one starts here. -/
def flowCollection (indent : Int) (anchor : Option Name) : Reader (Option Node) := do
  let steps := (← cursor).rest.length + 1
  match ← peek with
  | some '[' =>
    let cell ← newList anchor
    step
    flowEntries readNode indent ']' (addItem cell) steps true ()
    return some (.ofKind .sequence (.list cell))
  | some '\x7b' =>
    let cell ← newRecord anchor
    step
    flowEntries readNode indent '\x7d' addPair steps true { cell }
    return some (.ofKind .mapping (.record cell))
  | _ => return none

/-- Reads a node that is no collection, or nothing. -/
def leaf (ctx : Context) (tag anchor : Option Name) (flowIndent : Int) : Reader Node := do
  let scalar (tag : Option Name) (v : Item) : Reader Node := do
    setAnchor anchor v
    finish tag anchor (.ofKind .scalar v)
  if ctx.isBlock then
    if let some v ← scan (Block.scan flowIndent) then return ← scalar tag v
  if let some v ← scan SingleQuoted.scan then return ← scalar tag v
  if let some v ← scan DoubleQuoted.scan then return ← scalar tag v
  if (← peek) = some '*' then
    step
    let name ← anchorName
    check (tag.isNone && anchor.isNone)
    let value ← ((← get).anchors.lookup name).elim failure pure
    let _ ← pass
    return { value, present := true }
  if let some v ← scan (Plain.scan (ctx = .flowIn) flowIndent) then
    return ← scalar (some (tag.getD ['?'])) v
  setAnchor anchor .null
  finish tag anchor {}

/-- Reads the content of a node after its properties. Where no block collection may follow them,
they can be those of the first key of a block mapping. -/
def content (ctx : Context) (p : Properties) (blocks : Bool) (flowIndent : Int) :
    Reader Node := do
  let column := (← cursor).column
  if blocks then
    if let some items ← blockSequence readNode column p.anchor then
      return ← finish p.tag p.anchor (.ofKind .sequence items)
  let found ←
    if blocks then blockMapping readNode column flowIndent p.anchor else pure (.nothing false)
  match found with
  | .fields cell => finish p.tag p.anchor (.ofKind .mapping (.record cell))
  | .node inner => finish p.tag p.anchor { inner with present := true }
  | .nothing asked =>
    let (tag, anchor) := if asked then (none, none) else (p.tag, p.anchor)
    if let some node ← flowCollection readNode flowIndent anchor then
      return ← finish tag anchor node
    let mark ← peek
    if ctx.isBlock && !blocks && mark ≠ some '|' && mark ≠ some '>' then
      if let some start := p.start then
        if let some fields ← blockMappingFrom readNode start flowIndent then
          return ← finish none none (.ofKind .mapping fields)
    leaf ctx tag anchor flowIndent

end Collections

namespace Node

/-- Reads a node, with nodes in it nested less than `steps` deep. -/
def read : (steps : Nat) → ReadNode
  | 0, _, _, _, _ => failure
  | n + 1, parent, ctx, seek, compact => do
    let newLine ← if seek then pass else pure false
    let depth ← if newLine then Reader.depth parent else pure .deeper
    let start : Properties := { newLine, blocks := ctx.isBlock, depth }
    let steps := (← cursor).rest.length + 1
    let p ← if depth = .deeper then properties parent ctx.isBlock steps start else pure start
    let blocks := p.blocks && (p.newLine || compact)
    if p.depth = .deeper then
      content (read n) ctx p blocks (if ctx.isBlock then parent + 1 else parent)
    else if p.depth = .same ∧ ctx = .blockOut ∧ blocks then
      match ← blockSequence (read n) (← cursor).column p.anchor with
      | some items => finish p.tag p.anchor (.ofKind .sequence items)
      | none => finish p.tag p.anchor {}
    else finish p.tag p.anchor {}

end Node
end Yaml
end BlobTree
