import BlobTree.Number.Basic
import BlobTree.Text.Blank

/-!
# BlobTree.Number.Numeral

Reading a number from text. A numeral is decimal, with an optional sign, point and exponent, or
`Infinity` with an optional sign, or whole in base 16, 8 or 2 after `0x`, `0o` or `0b` and without
a sign. Blanks around it do not count, blank text is zero, and any other text is `nan`.
-/

namespace BlobTree
namespace Number

def digitValue? (base : Nat) (c : Char) : Option Nat :=
  let v? :=
    if '0' ≤ c ∧ c ≤ '9' then some (c.toNat - '0'.toNat)
    else if 'a' ≤ c ∧ c ≤ 'f' then some (c.toNat - 'a'.toNat + 10)
    else if 'A' ≤ c ∧ c ≤ 'F' then some (c.toNat - 'A'.toNat + 10)
    else none
  v?.filter (· < base)

/-- The value of one or more digits. -/
def natOf? (base : Nat) (s : Name) : Option Nat :=
  if s = [] then none
  else s.foldl (fun acc c => do return (← acc) * base + (← digitValue? base c)) (some 0)

def splitSign : Name → Bool × Name
  | '-' :: r => (true, r)
  | '+' :: r => (false, r)
  | r => (false, r)

/-- The exponent after `e`, zero where none is written. -/
def exponent? : Name → Option Int
  | [] => some 0
  | c :: r =>
    if c = 'e' ∨ c = 'E' then
      let (negative, ds) := splitSign r
      (natOf? 10 ds).map fun n => if negative then -(n : Int) else n
    else none

/-- An unsigned decimal: digits on at least one side of an optional point, then an exponent. -/
def decimalOf? (negative : Bool) (s : Name) : Option Number := do
  let whole := s.takeWhile Char.isDigit
  let rest := s.dropWhile Char.isDigit
  let (part, rest) := match rest with
    | '.' :: r => (r.takeWhile Char.isDigit, r.dropWhile Char.isDigit)
    | r => ([], r)
  let m ← natOf? 10 (whole ++ part)
  let e ← exponent? rest
  return ofDecimal (if negative then -(m : Int) else m) (e - part.length)

/-- A numeral without blanks around it. -/
def numeral? (s : Name) : Option Number :=
  match s with
  | [] => some (.finite 0)
  | '0' :: 'x' :: r | '0' :: 'X' :: r => (natOf? 16 r).map fun n => nearest n
  | '0' :: 'o' :: r | '0' :: 'O' :: r => (natOf? 8 r).map fun n => nearest n
  | '0' :: 'b' :: r | '0' :: 'B' :: r => (natOf? 2 r).map fun n => nearest n
  | _ =>
    let (negative, r) := splitSign s
    if r = "Infinity".toList then some (if negative then .negInf else .posInf)
    else decimalOf? negative r

def ofText (s : Name) : Number :=
  (numeral? (Text.trim s)).getD .nan

end Number
end BlobTree
