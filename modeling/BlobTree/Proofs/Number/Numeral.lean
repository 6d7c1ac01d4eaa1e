import Mathlib.Data.List.TakeWhile
import BlobTree.Number.Numeral

/-!
# BlobTree.Proofs.Number.Numeral

The decimal digits of a whole number are a numeral for it. Nothing in a row of digits is taken for
a blank, a sign, a base or a word, so the digits are read for what they count, and up to `2^53`
what they count stands as it is.

* `ofText_digits`: digits are read as what they count; `ofText_toString`: so a number is read back
  from its digits.
-/

namespace BlobTree
namespace Number

variable {ds : Name}

theorem isBlank_of_isDigit {c : Char} (h : c.isDigit) : Text.isBlank c = false := by
  have hrange : 48 ≤ c.toNat ∧ c.toNat ≤ 57 := by
    simpa [Char.isDigit, UInt32.le_iff_toNat_le] using h
  have hblanks : ∀ n ∈ Text.blanks, n < 48 ∨ 57 < n := by decide
  rw [Text.isBlank, List.contains_eq_mem, decide_eq_false_iff_not]
  intro hmem
  have := hblanks _ hmem
  omega

theorem dropWhile_isBlank_digits (hdigits : ∀ c ∈ ds, c.isDigit) :
    ds.dropWhile Text.isBlank = ds := by
  rw [List.dropWhile_eq_self_iff]
  intro hpos
  rw [isBlank_of_isDigit (hdigits _ (List.getElem_mem hpos))]
  exact Bool.false_ne_true

theorem trim_digits (hdigits : ∀ c ∈ ds, c.isDigit) : Text.trim ds = ds := by
  have hreverse : ∀ c ∈ ds.reverse, c.isDigit := fun c hc => hdigits c (List.mem_reverse.mp hc)
  rw [Text.trim, Text.trimStart, dropWhile_isBlank_digits hdigits, Text.trimEnd,
    dropWhile_isBlank_digits hreverse, List.reverse_reverse]

theorem digitValue?_of_isDigit {c : Char} (h : c.isDigit) :
    digitValue? 10 c = some (c.toNat - '0'.toNat) := by
  have hrange : '0' ≤ c ∧ c ≤ '9' := by simpa [Char.isDigit, Char.le_def] using h
  have hlt : c.toNat - '0'.toNat < 10 := by
    have hle : c.toNat ≤ '9'.toNat := hrange.2
    simp only [Char.reduceToNat] at hle ⊢
    omega
  rw [digitValue?, if_pos hrange, Option.filter_some, if_pos (decide_eq_true hlt)]

/-- Reading from the left, by induction on the digits; what has been read so far is `n`. -/
theorem foldl_digits (hdigits : ∀ c ∈ ds, c.isDigit) (n : Nat) :
    ds.foldl (fun acc c => do return (← acc) * 10 + (← digitValue? 10 c)) (some n) =
      some (Nat.ofDigitChars 10 ds n) := by
  induction ds generalizing n with
  | nil => rfl
  | cons c cs ih =>
    obtain ⟨hc, hcs⟩ := List.forall_mem_cons.mp hdigits
    rw [List.foldl_cons, digitValue?_of_isDigit hc, Nat.ofDigitChars_cons, Nat.mul_comm 10]
    exact ih hcs _

theorem natOf?_digits (hne : ds ≠ []) (hdigits : ∀ c ∈ ds, c.isDigit) :
    natOf? 10 ds = some (Nat.ofDigitChars 10 ds 0) := by
  rw [natOf?, if_neg hne]
  exact foldl_digits hdigits 0

theorem ofDecimal_ofNat {n : Nat} (h : n ≤ exactBound) : ofDecimal n 0 = ofNat n := by
  have hlength : (Nat.toDigits 10 n).length ≤ 16 :=
    (Nat.length_toDigits_le_iff (by decide) (by decide)).mpr (Nat.lt_of_le_of_lt h (by decide))
  unfold ofDecimal
  by_cases hzero : (n : Int) = 0
  · rw [if_pos hzero, Int.natCast_eq_zero.mp hzero]
    rfl
  · rw [if_neg hzero, Int.natAbs_natCast, if_neg (by omega), if_neg (by omega),
      if_pos (Int.le_refl 0)]
    simpa [ofInt_natCast] using nearest_ofInt (i := n) (by simpa using h)

theorem decimalOf?_digits (hne : ds ≠ []) (hdigits : ∀ c ∈ ds, c.isDigit) :
    decimalOf? false ds = some (ofDecimal (Nat.ofDigitChars 10 ds 0) 0) := by
  have hwhole : ds.takeWhile Char.isDigit = ds := List.takeWhile_eq_self_iff.mpr hdigits
  have hrest : ds.dropWhile Char.isDigit = [] := List.dropWhile_eq_nil_iff.mpr hdigits
  simp [decimalOf?, hwhole, hrest, natOf?_digits hne hdigits, exponent?]

/-- No row of digits begins with a base or a sign. -/
theorem numeral?_digits (hne : ds ≠ []) (hdigits : ∀ c ∈ ds, c.isDigit) :
    numeral? ds = decimalOf? false ds := by
  have hsign : splitSign ds = (false, ds) := by
    unfold splitSign
    split
    · exact absurd (hdigits '-' (by simp)) (by decide)
    · exact absurd (hdigits '+' (by simp)) (by decide)
    · rfl
  have hword : ds ≠ "Infinity".toList := by
    rintro rfl
    exact absurd (hdigits 'I' (by simp)) (by decide)
  unfold numeral?
  split
  · exact absurd rfl hne
  · exact absurd (hdigits 'x' (by simp)) (by decide)
  · exact absurd (hdigits 'X' (by simp)) (by decide)
  · exact absurd (hdigits 'o' (by simp)) (by decide)
  · exact absurd (hdigits 'O' (by simp)) (by decide)
  · exact absurd (hdigits 'b' (by simp)) (by decide)
  · exact absurd (hdigits 'B' (by simp)) (by decide)
  · simp only [hsign, if_neg hword]

theorem ofText_digits (hne : ds ≠ []) (hdigits : ∀ c ∈ ds, c.isDigit) :
    ofText ds = ofDecimal (Nat.ofDigitChars 10 ds 0) 0 := by
  rw [ofText, trim_digits hdigits, numeral?_digits hne hdigits, decimalOf?_digits hne hdigits,
    Option.getD_some]

theorem ofText_toString {n : Nat} (h : n ≤ exactBound) :
    ofText (toString n).toList = ofNat n := by
  have hdigits : ∀ c ∈ Nat.toDigits 10 n, c.isDigit := fun c hc =>
    Nat.isDigit_of_mem_toDigits (by decide) (by decide) hc
  rw [Nat.toString_eq_repr, Nat.toList_repr, ofText_digits Nat.toDigits_ne_nil hdigits,
    Nat.ofDigitChars_ten_toDigits, ofDecimal_ofNat h]

end Number
end BlobTree
