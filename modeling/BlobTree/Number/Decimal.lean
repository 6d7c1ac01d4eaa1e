import BlobTree.Number.Basic

/-!
# BlobTree.Number.Decimal

The text of a number: the fewest decimal digits that read back as the same number, the nearest
of those where several do, laid out positionally between `10^-7` and `10^21` and with an exponent
beyond.

* `digits` chooses the digits in exact arithmetic; `Layout` is every decision about how they are
  written, in one value.
-/

namespace BlobTree
namespace Number

/-- The greatest `e` with `10^e ≤ num / den` for a positive quotient, found from the digit
counts, which miss it by at most one. -/
def floorLog10 (num den : Nat) : Int :=
  let e := ((Nat.toDigits 10 num).length : Int) - (Nat.toDigits 10 den).length
  let reaches (e : Int) : Bool :=
    if 0 ≤ e then Nat.pow 10 e.toNat * den ≤ num else den ≤ num * Nat.pow 10 (-e).toNat
  if reaches e then e else e - 1

def scaled (m : Nat) (e : Int) : Rat :=
  if 0 ≤ e then ((m * Nat.pow 10 e.toNat : Nat) : Rat) else mkRat m (Nat.pow 10 (-e).toNat)

/-- The digits of `size` on the grid of step `10^e`, if one of its two neighbours there reads
back as `size`: the nearer if both do, the even one at a tie. -/
def onGrid (size : Rat) (e : Int) : Option Nat :=
  let low := (if 0 ≤ e then size / (Nat.pow 10 e.toNat : Rat)
    else size * (Nat.pow 10 (-e).toNat : Rat)).floor.toNat
  let high := low + 1
  let readsBack (m : Nat) : Bool := nearest (scaled m e) = .finite size
  match readsBack low, readsBack high with
  | true, true =>
    let below := size - scaled low e
    let above := scaled high e - size
    if below < above then some low
    else if above < below then some high
    else if low % 2 = 0 then some low else some high
  | true, false => some low
  | false, true => some high
  | false, false => none

/-- The coarsest grid with an answer, from `top` digits down to the step of `top - n`. -/
def coarsest (size : Rat) (top : Int) : Nat → Nat → Nat × Int
  | 0, used => (size.num.natAbs, top - used)
  | n + 1, used =>
    match onGrid size (top - used) with
    | some m => (m, top - used)
    | none => coarsest size top n (used + 1)

def dropZeros : Nat → Nat × Int → Nat × Int
  | 0, d => d
  | n + 1, (m, e) => if m ≠ 0 ∧ m % 10 = 0 then dropZeros n (m / 10, e + 1) else (m, e)

/-- The shortest decimal `m · 10^e` that reads back as a positive `size`, with no trailing zero
in `m`. Seventeen digits always suffice. -/
def digits (size : Rat) : Nat × Int :=
  dropZeros 20 (coarsest size (floorLog10 size.num.natAbs size.den) 17 0)

structure Layout where
  /-- Positional as far as this many digits before the point. -/
  whole : Int
  /-- Positional with at most this many zeros after the point before the first digit. -/
  leadingZeros : Int
  nan : String
  infinity : String

/-- Up to 21 places before the point and five zeros after it are written out. -/
def layout : Layout := ⟨21, 5, "NaN", "Infinity"⟩

def Layout.write (l : Layout) (m : Nat) (e : Int) : String :=
  let ds := Nat.toDigits 10 m
  let count : Int := ds.length
  let point := count + e
  if 0 ≤ e ∧ point ≤ l.whole then
    String.ofList (ds ++ List.replicate e.toNat '0')
  else if 0 < point ∧ point ≤ l.whole then
    String.ofList (ds.take point.toNat ++ '.' :: ds.drop point.toNat)
  else if -l.leadingZeros ≤ point ∧ point ≤ 0 then
    String.ofList ('0' :: '.' :: (List.replicate (-point).toNat '0' ++ ds))
  else
    let power := point - 1
    let mark := if power < 0 then ['e', '-'] else ['e', '+']
    let lead := match ds with
      | [] => []
      | [d] => [d]
      | d :: rest => d :: '.' :: rest
    String.ofList (lead ++ mark ++ Nat.toDigits 10 power.natAbs)

/-- The decimal `(negative, m, e)` that stands for a finite number, and `none` for the others. -/
def decimal? (n : Number) : Option (Bool × Nat × Int) :=
  match n with
  | .finite q =>
    match nearest q with
    | .finite r =>
      if r = 0 then some (false, 0, 0)
      else
        let (m, e) := digits (if r < 0 then -r else r)
        some (decide (r < 0), m, e)
    | _ => none
  | _ => none

def text (n : Number) : String :=
  match n.decimal? with
  | some (negative, m, e) =>
    let body := layout.write m e
    if negative then "-" ++ body else body
  | none =>
    match n with
    | .nan => layout.nan
    | .posInf => layout.infinity
    | .negInf => "-" ++ layout.infinity
    | .finite q => if q < 0 then "-" ++ layout.infinity else layout.infinity

instance : ToString Number := ⟨text⟩

end Number
end BlobTree
