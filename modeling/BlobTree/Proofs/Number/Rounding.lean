import Mathlib.Algebra.Order.Field.Rat
import BlobTree.Number.Basic

/-!
# BlobTree.Proofs.Number.Rounding

Rounding does not fall below a whole number. If the step between neighbours is at most one, whole
numbers are among the neighbours; if it is more, the power of two below the value is, and that is
already past `2^53`.

* `le_nearest`: a whole number up to `2^53` that is below a value is below the rounded value.
* `le_placeAfter`: so a place that lies one or more further on is no nearer than the next.
-/

namespace BlobTree
namespace Number

theorem div_le_roundDiv (num den : Nat) : num / den ≤ roundDiv num den := by
  simp only [roundDiv]
  split
  · exact Nat.le_refl _
  · split
    · omega
    · split <;> omega

/-- By the two cases of the definition; the second compares the bit lengths. -/
theorem pow_floorLog2_le {num den e : Nat} (hn : num ≠ 0)
    (he : floorLog2 num den = e) : 2 ^ e * den ≤ num := by
  have hnum : 2 ^ num.log2 ≤ num := Nat.log2_self_le hn
  have hden : den < 2 ^ (den.log2 + 1) := Nat.lt_log2_self
  simp only [floorLog2] at he
  by_cases hle : (pow2 ((num.log2 : Int) - den.log2)).1 * den ≤
      num * (pow2 ((num.log2 : Int) - den.log2)).2
  · rw [if_pos hle] at he
    rw [he] at hle
    simpa [pow2] using hle
  · rw [if_neg hle] at he
    have hlog : e + (den.log2 + 1) = num.log2 := by omega
    calc 2 ^ e * den ≤ 2 ^ e * 2 ^ (den.log2 + 1) := Nat.mul_le_mul_left _ hden.le
      _ = 2 ^ num.log2 := by rw [← pow_add, hlog]
      _ ≤ num := hnum

/-- A whole number below a quotient is below the quotient rounded to a multiple of its step. -/
theorem le_roundDiv_step {n num den : Nat} (hn : n ≤ exactBound) (hnum : num ≠ 0) (hden : den ≠ 0)
    (h : n * den ≤ num) :
    n * (pow2 (stepAt num den)).2 ≤
      roundDiv (num * (pow2 (stepAt num den)).2) (den * (pow2 (stepAt num den)).1) *
        (pow2 (stepAt num den)).1 := by
  by_cases hstep : stepAt num den ≤ 0
  · -- The step is `1 / r`.
    obtain ⟨r, hr⟩ : ∃ r, pow2 (stepAt num den) = (1, r) := by
      unfold pow2
      split
      · have hzero : stepAt num den = 0 := by omega
        exact ⟨1, by rw [hzero]; rfl⟩
      · exact ⟨_, rfl⟩
    rw [hr]
    simp only [Nat.mul_one]
    refine le_trans ?_ (div_le_roundDiv _ _)
    rw [Nat.le_div_iff_mul_le (Nat.pos_of_ne_zero hden)]
    calc n * r * den = n * den * r := by rw [Nat.mul_right_comm]
      _ ≤ num * r := Nat.mul_le_mul_right r h
  · -- The step is a power of two, and the value is past `2^53`.
    obtain ⟨e, he⟩ : ∃ e : Nat, stepAt num den = e := ⟨(stepAt num den).toNat, by omega⟩
    have hlog : floorLog2 num den = (e + 52 : Nat) := by
      unfold stepAt at he
      omega
    have hpos : 1 ≤ e := by omega
    have hpow : pow2 (stepAt num den) = (2 ^ e, 1) := by
      rw [he]
      simp [pow2]
    have hbelow : 2 ^ (e + 52) * den ≤ num := pow_floorLog2_le hnum hlog
    have hmant : 2 ^ 52 ≤ num / (den * 2 ^ e) := by
      rw [Nat.le_div_iff_mul_le (Nat.mul_pos (Nat.pos_of_ne_zero hden) (Nat.two_pow_pos e))]
      calc 2 ^ 52 * (den * 2 ^ e) = 2 ^ (e + 52) * den := by
            rw [pow_add, Nat.mul_comm den, ← Nat.mul_assoc, Nat.mul_comm (2 ^ 52)]
        _ ≤ num := hbelow
    rw [hpow]
    simp only [Nat.mul_one]
    calc n ≤ 2 ^ 52 * 2 ^ 1 := by simpa [exactBound] using hn
      _ ≤ 2 ^ 52 * 2 ^ e := Nat.mul_le_mul_left _ (Nat.pow_le_pow_right (by decide) hpos)
      _ ≤ roundDiv num (den * 2 ^ e) * 2 ^ e :=
        Nat.mul_le_mul_right _ (hmant.trans (div_le_roundDiv _ _))

theorem le_num_of_natCast_le {n : Nat} {x : Rat} (h : (n : Rat) ≤ x) :
    (n : Int) * x.den ≤ x.num := by
  have hle := (Rat.le_iff _ _).mp h
  simpa using hle

theorem natCast_le_mkRat {n a r : Nat} (hr : r ≠ 0) (h : n * r ≤ a) : (n : Rat) ≤ mkRat a r := by
  rw [Rat.mkRat_eq_div, le_div_iff₀ (by exact_mod_cast Nat.pos_of_ne_zero hr)]
  exact_mod_cast h

theorem pow2_snd_ne_zero (e : Int) : (pow2 e).2 ≠ 0 := by
  unfold pow2
  split
  · exact Nat.one_ne_zero
  · exact (Nat.two_pow_pos _).ne'

theorem le_nearest {n : Nat} {x : Rat} (hn : n ≤ exactBound) (h : (n : Rat) ≤ x) :
    (ofNat n).le (nearest x) := by
  have hnum : (n : Int) * x.den ≤ x.num := le_num_of_natCast_le h
  have hnonneg : 0 ≤ x.num :=
    le_trans (Int.mul_nonneg (Int.natCast_nonneg _) (Int.natCast_nonneg _)) hnum
  by_cases hexact : x.den = 1 ∧ x.num.natAbs ≤ exactBound
  · simp only [nearest, if_pos hexact, ofNat, le, lt]
    simpa using h
  · have hpos : x.num.natAbs ≠ 0 := by
      intro hzero
      have hx : x = 0 := Rat.num_eq_zero.mp (Int.natAbs_eq_zero.mp hzero)
      exact hexact (by rw [hx]; decide)
    have hround := le_roundDiv_step hn hpos x.den_nz (by omega)
    have hsize := natCast_le_mkRat (pow2_snd_ne_zero _) hround
    have hsign : ¬x.num < 0 := by omega
    simp only [nearest, if_neg hexact, if_neg hsign]
    split
    · rfl
    · simp only [ofNat, le, lt]
      simpa using hsize

theorem le_placeAfter {n : Nat} {d : Number} (h : (ofNat 1).le d) :
    (ofNat (n + 1)).le (placeAfter n d) := by
  cases d with
  | nan => cases h
  | negInf => cases h
  | posInf => rfl
  | finite q =>
    have hq : (1 : Rat) ≤ q := by simpa [ofNat, le, lt] using h
    have hsum : ((n + 1 : Nat) : Rat) ≤ n + q := by
      push_cast
      exact add_le_add_right hq n
    simp only [placeAfter]
    split
    · rename_i hn
      exact le_nearest hn hsum
    · simp only [ofNat, le, lt]
      simpa using hsum

end Number

end BlobTree
