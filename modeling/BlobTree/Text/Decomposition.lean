import BlobTree.Text.Decomposition.Table

/-!
# BlobTree.Text.Decomposition

What a character is made of. A character has the same meaning as its canonical parts, such as a
letter and its accent; to parts in any other form it is only akin.

* `Decomposition.expanded`: a character taken apart as far as it goes.
-/

namespace BlobTree

/-- How a character differs from its parts; not at all if the form is canonical. -/
inductive Form where
  | canonical | font | circle | wide | narrow | square | superscript | subscript | vertical
  | initial | medial | final | isolated | noBreak | fraction | small | compat
  deriving DecidableEq, Inhabited

namespace Hangul

/-- The parts of a syllable: a consonant and a vowel, or a syllable of these and a final consonant.
Syllables are numbered by their parts. -/
def parts? (n : Nat) : Option (List Nat) :=
  if 0xAC00 ≤ n ∧ n < 0xD7A4 then
    let k := n - 0xAC00
    if k % 28 = 0 then some [0x1100 + k / 588, 0x1161 + k % 588 / 28]
    else some [n - k % 28, 0x11A7 + k % 28]
  else none

def joined? (a b : Nat) : Option Nat :=
  if 0x1100 ≤ a ∧ a < 0x1113 ∧ 0x1161 ≤ b ∧ b < 0x1176 then
    some (0xAC00 + (a - 0x1100) * 588 + (b - 0x1161) * 28)
  else if 0xAC00 ≤ a ∧ a < 0xD7A4 ∧ (a - 0xAC00) % 28 = 0 ∧ 0x11A7 < b ∧ b < 0x11C3 then
    some (a + (b - 0x11A7))
  else none

end Hangul

namespace Decomposition

open CharTable (Row)

def tables : List (Form × List Row) :=
  [(.canonical, Table.canonical), (.compat, Table.compat), (.wide, Table.wide),
    (.narrow, Table.narrow), (.font, Table.font), (.superscript, Table.superscript),
    (.subscript, Table.subscript), (.circle, Table.circle), (.square, Table.square),
    (.fraction, Table.fraction), (.small, Table.small), (.vertical, Table.vertical),
    (.noBreak, Table.noBreak), (.initial, Table.initial), (.medial, Table.medial),
    (.final, Table.final), (.isolated, Table.isolated)]

/-- The form of a character and its parts. -/
def parts? (n : Nat) : Option (Form × List Nat) :=
  if n < 0xA0 then none
  else match Hangul.parts? n with
    | some parts => some (.canonical, parts)
    | none => tables.findSome? fun (form, rows) => (CharTable.get? rows n).map (form, ·)

/-- A character taken apart, into parts of every form or into canonical ones only. -/
def expand (akin : Bool) : (steps : Nat) → Nat → List Nat
  | 0, n => [n]
  | steps + 1, n =>
    match parts? n with
    | some (form, parts) =>
      if akin ∨ form = .canonical then parts.flatMap (expand akin steps) else [n]
    | none => [n]

/-- Parts have parts of their own, to a depth of five at most. -/
def expanded (akin : Bool) (s : List Nat) : List Nat :=
  s.flatMap (expand akin 5)

end Decomposition
end BlobTree
