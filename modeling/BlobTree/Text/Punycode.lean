import BlobTree.Text.Units

/-!
# BlobTree.Text.Punycode

Names of any characters written with letters, digits and hyphens. The ASCII characters of a name
come first, up to the last hyphen. What follows are numbers of variable length, each the distance
from one of the other characters to the next, in the order of characters and then of places.

* `Punycode.decode?`: the name that a text stands for, if it stands for one.
* `number?_shortens`: a number takes at least one digit, so there are no more characters than
  digits.
-/

namespace BlobTree
namespace Punycode

/-- Letters of either case stand for 0 to 25, digits for 26 to 35. -/
def digit? (c : Char) : Option Nat :=
  if 'a' ≤ c ∧ c ≤ 'z' then some (c.toNat - 'a'.toNat)
  else if 'A' ≤ c ∧ c ≤ 'Z' then some (c.toNat - 'A'.toNat)
  else if c.isDigit then some (c.toNat - '0'.toNat + 26)
  else none

/-- The digit at a place `k`, counted in steps of 36, below which a number ends there. -/
def threshold (k bias : Nat) : Nat :=
  min 26 (max 1 (k - bias))

/-- A number: the digits from place `k` on, each weighted by the thresholds before it. -/
def number? (bias : Nat) : Name → (weight k : Nat) → Option (Nat × Name)
  | [], _, _ => none
  | c :: rest, weight, k => do
    let d ← digit? c
    let t := threshold k bias
    if d < t then return (d * weight, rest)
    else
      let (n, rest) ← number? bias rest (weight * (36 - t)) (k + 36)
      return (d * weight + n, rest)

theorem number?_shortens {bias : Nat} {s rest : Name} {weight k n : Nat}
    (h : number? bias s weight k = some (n, rest)) : rest.length < s.length := by
  induction s generalizing weight k n with
  | nil => simp [number?] at h
  | cons c s ih =>
    simp only [number?, Option.bind_eq_bind, Option.bind_eq_some_iff] at h
    obtain ⟨d, -, h⟩ := h
    split at h
    · simp only [Option.pure_def, Option.some.injEq, Prod.mk.injEq] at h
      simp [← h.2]
    · obtain ⟨⟨m, r⟩, hr, h⟩ := Option.bind_eq_some_iff.mp h
      simp only [Option.pure_def, Option.some.injEq, Prod.mk.injEq] at h
      obtain ⟨-, rfl⟩ := h
      exact Nat.lt_succ_of_lt (ih hr)

/-- How often the distance is divided before the bias is settled, and what is left of it. -/
def reduced : (steps : Nat) → (delta : Nat) → Nat × Nat
  | 0, delta => (0, delta)
  | steps + 1, delta =>
    if delta ≤ 455 then (0, delta)
    else
      let (n, delta) := reduced steps (delta / 35)
      (n + 1, delta)

/-- The bias for the next number after a distance, in a name that has `count` characters now. -/
def adapted (delta count : Nat) (first : Bool) : Nat :=
  let delta := if first then delta / 700 else delta / 2
  let (n, delta) := reduced delta (delta + delta / count)
  36 * n + 36 * delta / (delta + 38)

/-- Puts the other characters in their places: `code` and `place` are those of the last one. -/
def insertAll (s : Name) (code place bias : Nat) (name : Name) : Option Name :=
  if s.isEmpty then some name
  else
    match h : number? bias s 1 36 with
    | none => none
    | some (delta, rest) =>
      have : rest.length < s.length := number?_shortens h
      let count := name.length + 1
      let next := code + (place + delta) / count
      let spot := (place + delta) % count
      if next.isValidChar then
        insertAll rest next (spot + 1) (adapted delta count (place = 0))
          (name.insertIdx spot (Char.ofNat next))
      else none
termination_by s.length

def decode? (s : Name) : Option Name :=
  let ascii := ((s.reverse.dropWhile (· ≠ '-')).drop 1).reverse
  let numbers := (s.reverse.takeWhile (· ≠ '-')).reverse
  insertAll numbers 128 0 72 ascii

end Punycode
end BlobTree
