import BlobTree.Yaml.Reader

/-!
# BlobTree.Yaml.Property

The properties of a node: a tag, which gives it a meaning, and an anchor, under which an alias
finds it.

* `properties`: the properties before a node's content. Two of a kind belong to two nodes: those
  on a line of their own to a mapping, those on its first line to its first key.
-/

namespace BlobTree
namespace Yaml

open Reader

namespace Tag

/-- Handles are `!`, `!!` or a word of letters, digits and hyphens between exclamation marks. -/
def isHandle (s : Name) : Bool :=
  s = ['!'] || s = ['!', '!'] ||
    (3 ≤ s.length && s.head? = some '!' && s.getLast? = some '!' &&
      (s.drop 1).dropLast.all fun c => c.isAlphanum || c = '-')

def isUriChar (c : Char) : Bool :=
  c.isAlphanum || "-#;/?:@&=+$,_.!~*'()[]".toList.contains c

/-- Characters of a tag, of which any may be written as `%` and two hexadecimal digits. -/
def isUriTail : Name → Bool
  | [] => true
  | '%' :: a :: b :: rest =>
    (DoubleQuoted.hexDigit? a).isSome && (DoubleQuoted.hexDigit? b).isSome && isUriTail rest
  | c :: rest => isUriChar c && isUriTail rest

/-- Tags begin with any character of the basic plane that structures no flow collection. -/
def isUri : Name → Bool
  | [] => true
  | c :: rest => !isFlowMark c && c.toNat < 0x10000 && isUriTail rest

/-- The bytes of a tag with its percent-encoding undone. -/
def bytes? : Name → Option (List UInt8)
  | '%' :: a :: b :: rest => do
    let x ← DoubleQuoted.hexDigit? a
    let y ← DoubleQuoted.hexDigit? b
    return UInt8.ofNat (16 * x + y) :: (← bytes? rest)
  | c :: rest => if c = '%' then none else do
    return (String.ofList [c]).toUTF8.toList ++ (← bytes? rest)
  | [] => some []

/-- The name of a tag, well formed and with its percent-encoding undone. -/
def name? (s : Name) : Option Name :=
  if isUri s then do
    let bytes ← bytes? s
    (String.fromUTF8? ⟨bytes.toArray⟩).map String.toList
  else none

/-- A handle and the rest of a tag; only the first exclamation mark after the opening one can
end a handle. -/
def splitHandle? (s : Name) : Option (Name × Name) :=
  match s with
  | '!' :: rest => if rest.contains '!' then none else some (['!', '!'], rest)
  | _ =>
    if s.contains '!' then
      let word := s.takeWhile (· ≠ '!')
      let rest := s.drop (word.length + 1)
      let handle := '!' :: (word ++ ['!'])
      if isHandle handle ∧ ¬rest.contains '!' then some (handle, rest) else none
    else some (['!'], s)

/-- Reads a tag after its exclamation mark. -/
def read : Reader Name := do
  let c ← cursor
  if c.peek = some '<' then
    let body := c.rest.drop 1
    let word := body.take 1 ++ (body.drop 1).takeWhile (· ≠ '>')
    check (word.length + 1 < c.rest.length)
    place (c.steps (word.length + 2))
    (name? word).elim failure pure
  else
    let word := c.rest.takeWhile (!isSpace ·)
    place (c.steps word.length)
    let (handle, rest) ← (splitHandle? word).elim failure pure
    check (!rest.any isFlowMark)
    let name ← (name? rest).elim failure pure
    match (← get).handles.lookup handle with
    | some start => return start ++ name
    | none =>
      if handle = ['!'] then return '!' :: name
      else if handle = ['!', '!'] then return "tag:yaml.org,2002:".toList ++ name
      else failure

end Tag

/-- The name of an anchor or an alias after its mark. -/
def anchorName : Reader Name := do
  let c ← cursor
  let word := c.rest.takeWhile fun x => !isSpace x && !isFlowMark x
  check (!word.isEmpty)
  place (c.steps word.length)
  return word

structure Properties where
  tag : Option Name := none
  anchor : Option Name := none
  /-- Where the first of them begins. -/
  start : Option Cursor := none
  /-- A line break came before one of them or after. -/
  newLine : Bool
  /-- A block collection may follow. -/
  blocks : Bool
  /-- The depth of the line reached. -/
  depth : Depth

/-- Reads tags and anchors. A second one of a kind after a line break is left to the node that
begins there. -/
def properties (parent : Int) (block : Bool) : (steps : Nat) → Properties → Reader Properties
  | 0, p => return p
  | n + 1, p => do
    let c ← cursor
    let next (p : Properties) : Reader Properties := do
      let p := { p with start := p.start <|> some c }
      if ← pass then
        properties parent block n
          { p with newLine := true, blocks := block, depth := ← depth parent }
      else properties parent block n { p with blocks := false }
    match c.peek with
    | some '!' =>
      if p.newLine ∧ p.tag.isSome then return p
      check p.tag.isNone
      step
      let tag ← Tag.read
      next { p with tag := some tag }
    | some '&' =>
      if p.newLine ∧ p.anchor.isSome then return p
      check p.anchor.isNone
      step
      let anchor ← anchorName
      next { p with anchor := some anchor }
    | _ => return p

end Yaml
end BlobTree
