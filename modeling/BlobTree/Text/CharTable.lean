/-!
# BlobTree.Text.CharTable

Tables of characters, written as texts. A character stands there by its number in base 16. A row
is one character, or two with a hyphen between them for all from one to the other, or two with a
colon for every second one. In a map an equals sign follows and then, with points between them,
the numbers that the first character of the row stands for; those of a later one are as much
greater as it is.

* `CharTable.get?`: what a map has for a character. `CharTable.has`: whether a set has it.
-/

namespace BlobTree
namespace CharTable

structure Row where
  first : Nat
  last : Nat
  step : Nat := 1
  image : List Nat := []
  deriving DecidableEq, Inhabited

def digit (c : Char) : Nat :=
  if c.isDigit then c.toNat - '0'.toNat else c.toNat - 'A'.toNat + 10

/-- The value of a number in base 16 with capital letters. -/
def number (s : List Char) : Nat :=
  s.foldl (fun n c => 16 * n + digit c) 0

def row (s : List Char) : Row :=
  let span := s.takeWhile (· ≠ '=')
  let image := match s.drop span.length with
    | '=' :: image => (image.splitOn '.').map number
    | _ => []
  let first := span.takeWhile Char.isAlphanum
  match span.drop first.length with
  | '-' :: last => { first := number first, last := number last, image }
  | ':' :: last => { first := number first, last := number last, step := 2, image }
  | _ => { first := number first, last := number first, image }

/-- The words of a text between blanks and line breaks. -/
def words (s : String) : List (List Char) :=
  (s.toList.splitOnP fun c => c = ' ' || c = '\n').filter (· ≠ [])

def rows (s : String) : List Row :=
  (words s).map row

def Row.has (r : Row) (n : Nat) : Bool :=
  r.first ≤ n && n ≤ r.last && (n - r.first) % r.step = 0

def Row.count (r : Row) : Nat :=
  (r.last - r.first) / r.step + 1

/-- The place of a character in its row, counted from zero. -/
def Row.place (r : Row) (n : Nat) : Nat :=
  (n - r.first) / r.step

def has (table : List Row) (n : Nat) : Bool :=
  table.any (·.has n)

def get? (table : List Row) (n : Nat) : Option (List Nat) :=
  (table.find? (·.has n)).map fun r => r.image.map (· + (n - r.first))

end CharTable
end BlobTree
