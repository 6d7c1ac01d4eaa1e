/-!
# BlobTree.Number.Basic

Numbers as callers hand them in: rationals, the two infinities and a value that is no number.
Sizes, limits, offsets and counters are numbers of this type; the sizes the library computes
itself are whole.

Values are exact. `nearest` is the only place where a value is rounded, to the nearest number
with 53 significant bits (ties to even), as far as `2^1024`; a whole number up to `2^53` stands
as it is (`nearest_ofNat`).

* `plus` is the rounded sum that counters use, and `shift` moves a byte count by it; a whole count
  that stays within `2^53` moves exactly (`shift_ofNat`).
-/

namespace BlobTree

inductive Number where
  | nan
  | posInf
  | negInf
  | finite (q : Rat)
  deriving DecidableEq, Inhabited

namespace Number

def ofInt (i : Int) : Number :=
  .finite i

def ofNat (n : Nat) : Number :=
  .finite n

/-- Strict order; `nan` is in no order with anything. -/
def lt : Number → Number → Bool
  | .nan, _ | _, .nan => false
  | _, .negInf | .posInf, _ => false
  | .negInf, _ | _, .posInf => true
  | .finite p, .finite q => decide (p < q)

/-- Order without strictness; `nan` is in no order with anything. -/
def le (a b : Number) : Bool :=
  match a, b with
  | .nan, _ | _, .nan => false
  | a, b => !b.lt a

/-- The lesser of two numbers, `nan` if either is. -/
def min : Number → Number → Number
  | .nan, _ | _, .nan => .nan
  | a, b => if a.lt b then a else b

def toInt? : Number → Option Int
  | .finite q => if q.den = 1 then some q.num else none
  | _ => none

def toPositive? (n : Number) : Option Nat :=
  n.toInt?.bind fun i => if 0 < i then some i.toNat else none

/-- Toward zero. -/
def truncRat (q : Rat) : Int :=
  q.num.tdiv q.den

/-- A quotient rounded to the nearest whole number, a half to the even neighbour. -/
def roundDiv (num den : Nat) : Nat :=
  let low := num / den
  let rest := num % den
  if 2 * rest < den then low
  else if den < 2 * rest then low + 1
  else if low % 2 = 0 then low else low + 1

/-- `2^e` as a fraction. -/
def pow2 (e : Int) : Nat × Nat :=
  if 0 ≤ e then (Nat.pow 2 e.toNat, 1) else (1, Nat.pow 2 (-e).toNat)

/-- The greatest `e` with `2^e ≤ num / den`, for a positive quotient. -/
def floorLog2 (num den : Nat) : Int :=
  let e := (num.log2 : Int) - den.log2
  let (p, q) := pow2 e
  if p * den ≤ num * q then e else e - 1

/-- The step between neighbours at a positive quotient is `2^` this. -/
def stepAt (num den : Nat) : Int :=
  max (floorLog2 num den - 52) (-1074)

/-- The size `2^53`, up to which every whole number has at most 53 significant bits. -/
def exactBound : Nat := 9007199254740992

/-- The nearest number with 53 significant bits. -/
def nearest (q : Rat) : Number :=
  if q.den = 1 ∧ q.num.natAbs ≤ exactBound then .finite q
  else
    let num := q.num.natAbs
    let (p, r) := pow2 (stepAt num q.den)
    let m := roundDiv (num * r) (q.den * p)
    let size : Rat := mkRat (m * p) r
    if (Nat.pow 2 1024 : Rat) ≤ size then (if q.num < 0 then .negInf else .posInf)
    else .finite (if q.num < 0 then -size else size)

/-- A decimal `m · 10^e` rounded to the nearest number. -/
def ofDecimal (m : Int) (e : Int) : Number :=
  let digits := (Nat.toDigits 10 m.natAbs).length
  if m = 0 then .finite 0
  else if 400 < digits + e then (if m < 0 then .negInf else .posInf)
  else if digits + e < -400 then .finite 0
  else if 0 ≤ e then nearest (m * Nat.pow 10 e.toNat)
  else nearest (mkRat m (Nat.pow 10 (-e).toNat))

def plus : Number → Number → Number
  | .nan, _ | _, .nan => .nan
  | .posInf, .negInf | .negInf, .posInf => .nan
  | .posInf, _ | _, .posInf => .posInf
  | .negInf, _ | _, .negInf => .negInf
  | .finite p, .finite q => nearest (p + q)

/-- A byte count moved by a whole number of bytes. -/
def shift (a : Number) (d : Int) : Number :=
  a.plus (ofInt d)

/-- The place that lies a number after the n-th place of a list. Places from `2^53` on, which no
list of keys reaches, are not rounded. -/
def placeAfter (n : Nat) (d : Number) : Number :=
  match d with
  | .finite q => if n < exactBound then nearest (n + q) else .finite (n + q)
  | d => d

theorem nearest_ofInt {i : Int} (h : i.natAbs ≤ exactBound) : nearest i = ofInt i := by
  have hden : (i : Rat).den = 1 := Rat.den_intCast i
  have hnum : (i : Rat).num = i := Rat.num_intCast i
  unfold nearest
  rw [if_pos ⟨hden, by rw [hnum]; exact h⟩]
  rfl

theorem nearest_ofNat {n : Nat} (h : n ≤ exactBound) : nearest n = ofNat n :=
  nearest_ofInt (i := (n : Int)) (by simpa using h)

theorem plus_ofInt {i j : Int} (h : (i + j).natAbs ≤ exactBound) :
    (ofInt i).plus (ofInt j) = ofInt (i + j) := by
  show nearest ((i : Rat) + (j : Rat)) = _
  rw [← Rat.intCast_add, nearest_ofInt h]

theorem nearest_ne_nan (q : Rat) : nearest q ≠ .nan := by
  unfold nearest
  split
  · simp
  · dsimp only
    split
    · split <;> simp
    · simp

theorem plus_ofInt_ne_nan {n : Number} (h : n ≠ .nan) (i : Int) : n.plus (ofInt i) ≠ .nan := by
  cases n with
  | nan => exact absurd rfl h
  | posInf => exact Number.noConfusion
  | negInf => exact Number.noConfusion
  | finite q => exact nearest_ne_nan _

theorem shift_ofNat {n : Nat} {d : Int} (h : ((n : Int) + d).natAbs ≤ exactBound) :
    (ofNat n).shift d = ofInt (n + d) :=
  plus_ofInt h

theorem shift_add {n k : Nat} (h : n + k ≤ exactBound) : (ofNat n).shift k = ofNat (n + k) := by
  rw [shift_ofNat (by omega)]
  exact congrArg ofInt (Int.natCast_add n k).symm

theorem shift_sub {n k : Nat} (hk : k ≤ n) (h : n ≤ exactBound) :
    (ofNat n).shift (-k) = ofNat (n - k) := by
  rw [shift_ofNat (by omega)]
  exact congrArg ofInt (show (n : Int) + -(k : Int) = ((n - k : Nat) : Int) by omega)

@[simp] theorem truncRat_natCast (n : Nat) : truncRat n = n := by
  have hnum : (n : Rat).num = n := Rat.num_intCast n
  have hden : (n : Rat).den = 1 := Rat.den_intCast n
  simp [truncRat, hnum, hden]

theorem ofInt_natCast (n : Nat) : ofInt n = ofNat n := by
  simp only [ofInt, ofNat, Rat.intCast_natCast]

@[simp] theorem lt_ofInt (a b : Int) : (ofInt a).lt (ofInt b) = decide (a < b) := by
  simp only [ofInt, lt, Rat.intCast_lt_intCast]

@[simp] theorem le_ofInt (a b : Int) : (ofInt a).le (ofInt b) = decide (a ≤ b) := by
  have h := lt_ofInt b a
  simp only [ofInt] at h ⊢
  simp only [le, h]
  by_cases hab : a ≤ b
  · simp [hab]
  · simp [hab]
    omega

@[simp] theorem lt_ofNat (a b : Nat) : (ofNat a).lt (ofNat b) = decide (a < b) := by
  rw [← ofInt_natCast, ← ofInt_natCast, lt_ofInt]
  simp

@[simp] theorem le_ofNat (a b : Nat) : (ofNat a).le (ofNat b) = decide (a ≤ b) := by
  rw [← ofInt_natCast, ← ofInt_natCast, le_ofInt]
  simp

@[simp] theorem min_self (n : Number) : n.min n = n := by
  cases n <;> simp [min]

theorem min_ofNat (a b : Nat) : (ofNat a).min (ofNat b) = ofNat (Nat.min a b) := by
  have h := lt_ofNat a b
  simp only [ofNat] at h ⊢
  simp only [min, h, Nat.min_def]
  by_cases hab : a < b
  · simp [hab, Nat.le_of_lt hab]
  · by_cases heq : a = b
    · simp [heq]
    · simp [hab, show ¬a ≤ b by omega]

@[simp] theorem toInt?_ofInt (i : Int) : (ofInt i).toInt? = some i := by
  simp [ofInt, toInt?, Rat.den_intCast, Rat.num_intCast]

@[simp] theorem toInt?_ofNat (k : Nat) : (ofNat k).toInt? = some (k : Int) :=
  toInt?_ofInt k

theorem eq_ofInt_of_toInt? {n : Number} {i : Int} (h : n.toInt? = some i) : n = ofInt i := by
  cases n with
  | nan => cases h
  | posInf => cases h
  | negInf => cases h
  | finite q =>
    simp only [toInt?] at h
    split at h
    · next hden =>
      cases h
      rw [ofInt, finite.injEq]
      exact Rat.ext (by simp) (by simp [hden])
    · cases h

theorem eq_ofNat_of_toInt? {n : Number} {k : Nat} (h : n.toInt? = some k) : n = ofNat k :=
  (eq_ofInt_of_toInt? h).trans (ofInt_natCast k)

theorem toPositive?_pos {n : Number} {k : Nat} (h : n.toPositive? = some k) : 0 < k := by
  simp only [toPositive?, Option.bind_eq_some_iff] at h
  obtain ⟨i, -, hi⟩ := h
  split at hi
  · simp only [Option.some.injEq] at hi
    omega
  · cases hi

theorem eq_ofNat_of_toPositive? {n : Number} {k : Nat} (h : n.toPositive? = some k) :
    n = ofNat k := by
  obtain ⟨i, hi, hpos⟩ := Option.bind_eq_some_iff.mp h
  split at hpos
  · refine eq_ofNat_of_toInt? (hi.trans ?_)
    rw [← Option.some.inj hpos]
    congr 1
    omega
  · cases hpos

@[simp] theorem toPositive?_ofNat (n : Nat) :
    (ofNat n).toPositive? = if 0 < n then some n else none := by
  by_cases hn : 0 < n <;> simp [toPositive?, hn]

end Number
end BlobTree
