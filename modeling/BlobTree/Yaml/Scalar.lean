import BlobTree.Text.Units
import BlobTree.Yaml.Cursor

/-!
# BlobTree.Yaml.Scalar

The four forms of a scalar: plain, in single quotes, in double quotes, and as a block. Each form
reads its text from a cursor; `none` in the outer `Option` means that the document is not well
formed, `none` in the inner one that no scalar of the form starts here.

A line break inside a plain or quoted scalar counts as one space, and of several the first does
not count; blanks before a line break do not count either.
-/

namespace BlobTree
namespace Yaml

/-- A text that a form of scalar gives, if one starts here, in a well-formed document. -/
abbrev Scan := Option (Option (List Char × Cursor))

/-- What several line breaks inside a scalar stand for. -/
def folded (breaks : Nat) : List Char :=
  if breaks = 1 then [' '] else List.replicate (breaks - 1) '\n'

/-- Characters that may not stand in a plain or block scalar. -/
def isUnprintable (c : Char) : Bool :=
  let n := c.toNat
  n ≤ 0x08 || n = 0x0B || n = 0x0C || (0x0E ≤ n && n ≤ 0x1F) || (0x7F ≤ n && n ≤ 0x84) ||
    (0x86 ≤ n && n ≤ 0x9F) || n = 0xFFFE || n = 0xFFFF

/-- Characters that may not stand in a quoted scalar. -/
def isControl (c : Char) : Bool :=
  c.toNat < 0x20 && c ≠ '\t'

/-- A stretch of text without characters of a class. -/
def without (p : Char → Bool) (s : List Char) : Option (List Char) :=
  if s.any p then none else some s

namespace Plain

def isIndicator (c : Char) : Bool :=
  isSpace c || isFlowMark c || "#&*!|>'\"%@\x60".toList.contains c

def opens (flow : Bool) (c : Cursor) : Bool :=
  match c.peek with
  | none => false
  | some x =>
    !isIndicator x &&
      !((x = '?' || x = '-') && c.second.any fun y => isSpace y || (flow && isFlowMark y))

/-- Whether a plain scalar ends before the next character. -/
def closes (flow : Bool) (c : Cursor) : Bool :=
  match c.peek with
  | none => true
  | some ':' => c.second.any fun y => isSpace y || (flow && isFlowMark y)
  | some '#' => isSpace c.before
  | some x => c.atSeparator || (flow && isFlowMark x)

/-- Reads on. `text` is complete, `seg` (backwards) is the stretch being read, which ends at
`stop`, and `gap` (backwards) the blanks after it; `breaks` counts the line breaks that follow
the stretch, if any. -/
def read (flow : Bool) (indent : Int) :
    (steps : Nat) → (text seg gap : List Char) → (breaks : Option Nat) → (stop c : Cursor) →
    Option (List Char × Cursor)
  | 0, _, _, _, _, _, _ => none
  | n + 1, text, seg, gap, breaks, stop, c =>
    let finish (c : Cursor) := do return (text ++ (← without isUnprintable seg.reverse), c)
    if closes flow c then finish c
    else if c.peek.any isBreak then
      let (k, after) := c.pass false
      if indent ≤ after.indent then read flow indent n text seg gap (some k) stop after
      else finish { stop with tabbed := after.tabbed }
    else do
      let (text, seg, gap) ← match breaks with
        | none => pure (text, seg, gap)
        | some k => do
          pure (text ++ (← without isUnprintable seg.reverse) ++ folded k, [], [])
      match c.peek with
      | none => none
      | some x =>
        let next := c.step
        if isBlank x then read flow indent n text seg (x :: gap) none stop next
        else read flow indent n text (x :: (gap ++ seg)) [] none next next

def scan (flow : Bool) (indent : Int) (c : Cursor) : Scan :=
  if opens flow c then do
    let (text, after) ← read flow indent (2 * c.rest.length + 2) [] [] [] none c c
    return if text.isEmpty then none else some (text, after)
  else some none

end Plain

namespace SingleQuoted

/-- Reads on after the opening quote; `seg` (backwards) is the stretch being read and `gap`
(backwards) the blanks after it. -/
def read : (steps : Nat) → (text seg gap : List Char) → Cursor → Option (List Char × Cursor)
  | 0, _, _, _, _ => none
  | n + 1, text, seg, gap, c =>
    match c.peek with
    | none => none
    | some '\'' => do
      let text := text ++ (← without isControl (gap ++ seg).reverse)
      if c.second = some '\'' then read n text ['\''] [] (c.steps 2) else return (text, c.step)
    | some x =>
      if isBreak x then do
        let text := text ++ (← without isControl seg.reverse)
        let (k, after) := c.pass false
        read n (text ++ folded k) [] [] after
      else if c.atSeparator then none
      else if isBlank x then read n text seg (x :: gap) c.step
      else read n text (x :: (gap ++ seg)) [] c.step

def scan (c : Cursor) : Scan :=
  if c.peek = some '\'' then do
    return some (← read (c.rest.length + 1) [] [] [] c.step)
  else some none

end SingleQuoted

namespace DoubleQuoted

def escapes : List (Char × Char) :=
  [('0', '\x00'), ('a', '\x07'), ('b', '\x08'), ('t', '\t'), ('\t', '\t'), ('n', '\n'),
    ('v', '\x0b'), ('f', '\x0c'), ('r', '\r'), ('e', '\x1b'), (' ', ' '), ('"', '"'), ('/', '/'),
    ('\\', '\\'), ('N', '\u0085'), ('_', '\u00a0'), ('L', '\u2028'), ('P', '\u2029')]

def hexDigit? (c : Char) : Option Nat :=
  if c.isDigit then some (c.toNat - '0'.toNat)
  else if 'a' ≤ c.toLower ∧ c.toLower ≤ 'f' then some (c.toLower.toNat - 'a'.toNat + 10)
  else none

/-- The number written in the next `n` hexadecimal digits. -/
def hex? (n : Nat) (s : List Char) : Option Nat :=
  if s.length < n then none
  else (s.take n).foldl (fun acc c => do return (← acc) * 16 + (← hexDigit? c)) (some 0)

/-- The units of a number that an escape gives. Numbers of the basic plane, and those from
`0x80000000` on, have one unit and the others two, of which only the low bits count. -/
def unitsOf (n : Nat) : List Nat :=
  if n < 0x10000 ∨ 0x80000000 ≤ n then [n % 0x10000]
  else [(0xD800 + (n - 0x10000) / 0x400) % 0x10000, 0xDC00 + (n - 0x10000) % 0x400]

/-- The units that an escape stands for, from the character after its backslash on, and how many
characters it takes. -/
def escape? (s : List Char) : Option (List Nat × Nat) :=
  match s with
  | [] => none
  | x :: rest =>
    match escapes.lookup x with
    | some y => some (Units.ofChar y, 1)
    | none =>
      let number (digits : Nat) := (hex? digits rest).map fun n => (unitsOf n, digits + 1)
      if x = 'x' then number 2 else if x = 'u' then number 4
      else if x = 'U' then number 8 else none

/-- Reads the units of a text on after the opening quote, for two escapes can be the halves of one
character. `seg` (backwards) is the stretch being read and `gap` (backwards) the blanks after
it. -/
def read : (steps : Nat) → (text : List Nat) → (seg gap : List Char) → Cursor →
    Option (List Nat × Cursor)
  | 0, _, _, _, _ => none
  | n + 1, text, seg, gap, c =>
    let add (s : List Char) := return text ++ Units.ofName (← without isControl s.reverse)
    match c.peek with
    | none => none
    | some '"' => do return (← add (gap ++ seg), c.step)
    | some '\\' => do
      let text ← add (gap ++ seg)
      if c.second.any isBreak then read n text [] [] (c.step.pass false).2
      else
        let (units, used) ← escape? c.step.rest
        read n (text ++ units) [] [] (c.step.steps used)
    | some x =>
      if isBreak x then do
        let text ← add seg
        let (k, after) := c.pass false
        read n (text ++ Units.ofName (folded k)) [] [] after
      else if c.atSeparator then none
      else if isBlank x then read n text seg (x :: gap) c.step
      else read n text (x :: (gap ++ seg)) [] c.step

def scan (c : Cursor) : Scan :=
  if c.peek = some '"' then do
    let (units, after) ← read (c.rest.length + 1) [] [] [] c.step
    return some (Units.spell units, after)
  else some none

end DoubleQuoted

namespace Block

/-- What becomes of the line breaks at the end of a block. -/
inductive Chomping where
  | clip
  | strip
  | keep
  deriving DecidableEq

structure Header where
  folding : Bool
  chomping : Chomping := .clip
  /-- The indentation of the text relative to its surroundings. -/
  width : Option Nat := none

/-- The marks after `|` or `>`: how to chomp and how far the text is indented, each at most
once. -/
def header? : (steps : Nat) → Header → Cursor → Option (Header × Cursor)
  | 0, h, c => some (h, c)
  | n + 1, h, c =>
    match c.peek with
    | some '+' => if h.chomping = .clip then header? n { h with chomping := .keep } c.step else none
    | some '-' => if h.chomping = .clip then header? n { h with chomping := .strip } c.step else none
    | some x =>
      if x.isDigit then
        if x = '0' ∨ h.width.isSome then none
        else header? n { h with width := some (x.toNat - '0'.toNat) } c.step
      else some (h, c)
    | none => some (h, c)

structure Progress where
  text : List Char := []
  /-- The indentation of the text, and whether it is settled. -/
  indent : Nat
  settled : Bool
  /-- Lines without text since the last line with text. -/
  empty : Nat := 0
  started : Bool := false
  /-- The last line was indented further than the text. -/
  further : Bool := false

/-- The breaks between the last line with text and the next one, which begins with a blank or
does not. -/
def joint (folding : Bool) (p : Progress) (blank : Bool) : List Char :=
  let all := List.replicate (if p.started then 1 + p.empty else p.empty) '\n'
  if !folding || blank then all
  else if p.further then List.replicate (p.empty + 1) '\n'
  else if p.empty = 0 then (if p.started then [' '] else [])
  else List.replicate p.empty '\n'

def chomped (h : Header) (p : Progress) : List Char :=
  match h.chomping with
  | .keep => p.text ++ List.replicate (if p.started then 1 + p.empty else p.empty) '\n'
  | .clip => if p.started then p.text ++ ['\n'] else p.text
  | .strip => p.text

/-- Reads the lines of a block from the end of a line on. Its text has to be indented, unless the
marks say how far it is. -/
def read (h : Header) : (lines : Nat) → Progress → Cursor → Option (List Char × Cursor)
  | 0, _, _ => none
  | n + 1, p, c =>
    if c.rest.isEmpty then some (p.text, c)
    else do
      let c ← c.lineBreak?
      let spaces := (c.rest.takeWhile (· = ' ')).length
      let width := if p.settled then min spaces p.indent else spaces
      let c := { c.steps width with indent := width }
      let p := if p.settled then p else { p with indent := max p.indent width }
      if c.peek.any isBreak then read h n { p with empty := p.empty + 1 } c
      else if !p.settled ∧ p.indent = 0 then none
      else if width < p.indent then return (chomped h p, c)
      else
        let blank := c.peek.any isBlank
        let line ← without isUnprintable (c.rest.takeWhile (!isBreak ·))
        read h n
          { p with
            text := p.text ++ joint h.folding p blank ++ line
            settled := true, empty := 0, started := true, further := h.folding && blank }
          (c.steps line.length)

def scan (indent : Int) (c : Cursor) : Scan :=
  match c.peek with
  | some x =>
    if x = '|' ∨ x = '>' then do
      let (h, c) ← header? (c.rest.length + 1) { folding := decide (x = '>') } c.step
      let c := if c.peek.any isBlank then
          let c := c.passWhile isBlank
          if c.peek = some '#' then c.passWhile (!isBreak ·) else c
        else c
      let base := indent.toNat
      let p : Progress := match h.width with
        | some w => { indent := base + w - 1, settled := true }
        | none => { indent := base, settled := false }
      return some (← read h (c.rest.length + 1) p c)
    else some none
  | none => some none

end Block
end Yaml
end BlobTree
