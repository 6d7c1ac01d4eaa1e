import BlobTree.Text.Units

/-!
# BlobTree.Yaml.Cursor

A place in a document: the text that follows, the line and the column, how far the line is
indented and whether a tab stands among the blanks passed on it.

* `Cursor.pass`: passes blanks, comments and line breaks, and counts the line breaks.
-/

namespace BlobTree
namespace Yaml

structure Cursor where
  rest : List Char
  /-- The character just passed. -/
  before : Char := ' '
  line : Nat := 0
  column : Nat := 0
  /-- Leading spaces of the line. -/
  indent : Nat := 0
  /-- Blanks passed on this line held a tab. -/
  tabbed : Bool := false
  deriving DecidableEq, Inhabited

def isBreak (c : Char) : Bool :=
  c = '\n' || c = '\r'

def isBlank (c : Char) : Bool :=
  c = ' ' || c = '\t'

def isSpace (c : Char) : Bool :=
  isBlank c || isBreak c

/-- The characters that structure flow collections. -/
def isFlowMark (c : Char) : Bool :=
  c = ',' || c = '[' || c = ']' || c = '\x7b' || c = '\x7d'

namespace Cursor

def peek (c : Cursor) : Option Char :=
  c.rest.head?

def second (c : Cursor) : Option Char :=
  c.rest[1]?

def step (c : Cursor) : Cursor :=
  match c.rest with
  | [] => c
  | x :: rest => { c with rest, before := x, column := c.column + 1 }

def steps (c : Cursor) : Nat → Cursor
  | 0 => c
  | n + 1 => c.step.steps n

/-- Passes the characters of a class; no class holds line breaks. -/
def passWhile (c : Cursor) (p : Char → Bool) : Cursor :=
  c.steps (c.rest.takeWhile p).length

/-- Passes blanks, with a note of any tab. -/
def blanks (c : Cursor) : Cursor :=
  let tab := (c.rest.takeWhile isBlank).contains '\t'
  { c.passWhile isBlank with tabbed := c.tabbed || tab }

/-- Passes a line break, if there is one here. -/
def lineBreak? (c : Cursor) : Option Cursor :=
  let next (x : Char) (rest : List Char) : Cursor :=
    { c with rest, before := x, line := c.line + 1, column := 0, tabbed := false }
  match c.rest with
  | '\r' :: '\n' :: rest => some (next '\n' rest)
  | '\n' :: rest => some (next '\n' rest)
  | '\r' :: rest => some (next '\r' rest)
  | _ => none

/-- Passes the spaces at the start of a line, which are its indentation. -/
def indentation (c : Cursor) : Cursor :=
  let n := (c.rest.takeWhile (· = ' ')).length
  { c.steps n with indent := n }

def passWithin (comments : Bool) : (breaks : Nat) → Cursor → Nat × Cursor
  | 0, c => (0, c)
  | n + 1, c =>
    let c := c.blanks
    let c := if comments && c.peek = some '#' then c.passWhile (!isBreak ·) else c
    match c.lineBreak? with
    | none => (0, c)
    | some c =>
      let (k, c) := passWithin comments n c.indentation
      (k + 1, c)

/-- Passes blanks and line breaks and, if asked to, comments; also how many breaks there were. -/
def pass (c : Cursor) (comments : Bool) : Nat × Cursor :=
  passWithin comments (c.rest.length + 1) c

/-- Whether a line with three hyphens or three dots starts here, which ends a document. -/
def atSeparator (c : Cursor) : Bool :=
  c.column = 0 &&
    match c.rest with
    | a :: b :: d :: rest =>
      (a = '-' || a = '.') && a = b && b = d && rest.head?.all isSpace
    | _ => false

end Cursor
end Yaml
end BlobTree
