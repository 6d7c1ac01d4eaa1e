import BlobTree.Text.CaseFold
import BlobTree.Text.Collation.Alphabet
import BlobTree.Text.Collation.Variants
import BlobTree.Text.Composition
import BlobTree.Text.Units

/-!
# BlobTree.Text.Collation

The alphabetical order of names on one host; another host may have another (`NameOrder`). Names
are compared by their letters first, then by accents and other marks, then by variants such as
capitals; characters that do not count are passed over. A character with no place in the alphabet
takes that of its parts.

* `Collation.order`: names that differ only in characters that do not count, or in the way they
  write one letter, are equal in it.
-/

namespace BlobTree
namespace Collation

open CharTable (Row)

/-- The place of a character in the order: its letter, 0 for a mark; its mark, 0 for a letter; and
its variant. -/
structure Weight where
  letter : Nat
  mark : Nat
  variant : Nat
  deriving DecidableEq, Inhabited

/-- How a character differs from those that it stands for. -/
inductive Difference where
  | form (f : Form)
  | capital
  | smallHiragana
  | katakana
  | smallKatakana
  deriving DecidableEq

/-- The variant of a plain letter, of a capital, and of the syllables of Japanese. -/
def plain : Nat := 2
def capitalOfPlain : Nat := 8
def capitalVariant : Nat := 10
def hiragana : Nat := 14
def fullKatakana : Nat := 17

def isCapital (variant : Nat) : Bool :=
  variant = capitalOfPlain || variant = capitalVariant

/-- The variant of a character that differs so from one of a variant. -/
def Difference.variant (d : Difference) (v : Nat) : Nat :=
  match d with
  | .form .canonical => v
  | .form .wide => if v = capitalOfPlain then 9 else 3
  | .form .compat => if isCapital v then capitalVariant else 4
  | .form .font => if isCapital v then 11 else 5
  | .form .circle => if v = capitalOfPlain then 12 else if v = fullKatakana then 19 else 6
  | .form .small => 15
  | .form .narrow => if v = 15 then 16 else 18
  | .form .superscript => 20
  | .form .subscript => 21
  | .form .vertical => 22
  | .form .initial => 23
  | .form .medial => 24
  | .form .final => 25
  | .form .isolated => 26
  | .form .noBreak => 27
  | .form .square => if v = capitalOfPlain then 29 else 28
  | .form .fraction => 30
  | .capital =>
    match v with
    | 2 => capitalOfPlain
    | 3 => 9
    | 4 => capitalVariant
    | 5 => 11
    | 6 => 12
    | 28 => 29
    | v => v
  | .smallHiragana => 13
  | .katakana => fullKatakana
  | .smallKatakana => 15

/-- The rows of the alphabet with the places where they begin. -/
def placed : (start : Nat) → List Row → List (Nat × Row)
  | _, [] => []
  | start, r :: rest => (start, r) :: placed (start + r.count) rest

def places : List (Nat × Row) :=
  placed 1 alphabet

def letter? (n : Nat) : Option Nat :=
  (places.find? (·.2.has n)).map fun (start, r) => start + r.place n

def mark? (n : Nat) : Option Nat :=
  (marks.findIdx? fun rows => CharTable.has rows n).map (· + 1)

/-- The scripts whose characters are in the order of their numbers: Tangut, Nushu, Khitan, and the
ideographs, first those in common use; then whatever has no meaning, and the character that stands
in for what cannot be read. -/
def scripts : List (List Row) :=
  ["17000-18AFF 18D00-18D8F", "1B170-1B2FF", "18B00-18CFF",
    "4E00-9FFF FA0E-FA0F FA11 FA13-FA14 FA1F FA21 FA23-FA24 FA27-FA29",
    "3400-4DBF 20000-323AF", "0-FFFC FFFE 10000-110005", "FFFD", "FFFF"].map CharTable.rows

/-- The place of a character that is in no table, after all that are. -/
def placeByNumber (n : Nat) : Nat :=
  0x200000 * (scripts.findIdx (CharTable.has · n) + 1) + n

def variants : List (Difference × List Row) :=
  [(.form .canonical, Variants.same), (.form .compat, Variants.variants),
    (.form .font, Variants.fonts), (.form .circle, Variants.circled),
    (.form .square, Variants.squared), (.form .superscript, Variants.superscripts),
    (.form .narrow, Variants.narrow), (.form .vertical, Variants.vertical),
    (.form .initial, Variants.initials), (.form .final, Variants.finals),
    (.form .isolated, Variants.isolated), (.katakana, Variants.katakana),
    (.smallHiragana, Variants.smallHiragana), (.smallKatakana, Variants.smallKatakana)]

/-- The characters for which one stands in the order, and how it differs from them. -/
def standsFor? (n : Nat) : Option (Difference × List Nat) :=
  variants.findSome? fun (d, rows) => (CharTable.get? rows n).map (d, ·)

def ownVariant (n : Nat) : Nat :=
  if 0x3041 ≤ n ∧ n ≤ 0x3096 then hiragana else if n = 0x1B000 then fullKatakana else plain

/-- The weight of a character with a place of its own; there is none if it does not count. -/
def own? (n : Nat) : Option (List Weight) :=
  if CharTable.has ignored n then some []
  else if let some letter := letter? n then some [⟨letter, 0, ownVariant n⟩]
  else (mark? n).map fun mark => [⟨0, mark, plain⟩]

/-- What a character takes its weights from if it has none of its own. -/
def source? (n : Nat) : Option (Difference × List Nat) :=
  match Decomposition.parts? n with
  | some (f, parts) => some (.form f, parts)
  | none => (CaseFold.small? n).map fun m => (.capital, [m])

/-- Pairs that stand for one letter and a mark or for one letter. -/
def ligatures : List (List Nat × List Nat) :=
  [([0x4C, 0xB7], [0x4C, 0x110001]), ([0x6C, 0xB7], [0x6C, 0x110001]),
    ([0xE4D, 0xE32], [0xE33]), ([0xECD, 0xEB2], [0xEB3]),
    ([0xFB2, 0xF71, 0xF80], [0xF77]), ([0xFB2, 0xF80], [0xF76]),
    ([0xFB3, 0xF71, 0xF80], [0xF79]), ([0xFB3, 0xF80], [0xF78]),
    ([0xF71, 0xF72], [0xF73]), ([0xF71, 0xF74], [0xF75]), ([0xF71, 0xF80], [0xF81])]

/-- Vowels that are written before their consonant, and the consonants of their scripts. -/
def leading : List (List Row × List Row) :=
  [("E40-E44", "E01-E2E"), ("EC0-EC4", "E81-EAE EDC-EDF"), ("19B5-19B7 19BA", "1980-19AB"),
    ("AAB5-AAB6 AAB9 AABB-AABC", "AA80-AAAF")].map
    fun (vowels, consonants) => (CharTable.rows vowels, CharTable.rows consonants)

def leads (vowel consonant : Nat) : Bool :=
  leading.any fun (vowels, consonants) =>
    CharTable.has vowels vowel && CharTable.has consonants consonant

/-- The characters in the order in which they count: a vowel written before its consonant counts
after it. -/
def arranged : (steps : Nat) → List Nat → List Nat
  | 0, s => s
  | _ + 1, [] => []
  | steps + 1, a :: rest =>
    match ligatures.find? fun (l, _) => l.isPrefixOf (a :: rest) with
    | some (l, counted) => counted ++ arranged steps ((a :: rest).drop l.length)
    | none =>
      match rest with
      | b :: more =>
        if leads a b then b :: a :: arranged steps more else a :: arranged steps rest
      | [] => [a]

/-- The weights of a character. A character takes them from others to a depth of eight at most. -/
def weightsOf : (steps : Nat) → Nat → List Weight
  | 0, n => [⟨placeByNumber n, 0, plain⟩]
  | steps + 1, n =>
    let of (d : Difference) (parts : List Nat) : List Weight :=
      (parts.flatMap (weightsOf steps)).map fun w => { w with variant := d.variant w.variant }
    if let some (d, parts) := standsFor? n then of d parts
    else if let some weights := own? n then weights
    else if let some (d, parts) := source? n then of d parts
    else [⟨placeByNumber n, 0, plain⟩]

def weights (s : Name) : List Weight :=
  let s := Composition.composed (s.map Char.toNat)
  (arranged s.length s).flatMap (weightsOf 8)

/-- Letters, then marks, then variants of a name. -/
def sortKey (s : Name) : List Nat × List Nat × List Nat :=
  let ws := weights s
  ((ws.map Weight.letter).filter (· ≠ 0), ws.map Weight.mark, ws.map Weight.variant)

def le (s t : Name) : Bool :=
  let (a, b, c) := sortKey s
  let (a', b', c') := sortKey t
  if a ≠ a' then decide (a < a')
  else if b ≠ b' then decide (b < b')
  else !decide (c' < c)

/-- First before second, or equal and the rest in order. -/
theorem le_iff {s t : Name} {a b c a' b' c' : List Nat} (hs : sortKey s = (a, b, c))
    (ht : sortKey t = (a', b', c')) :
    le s t ↔ a < a' ∨ a = a' ∧ (b < b' ∨ b = b' ∧ ¬c' < c) := by
  simp only [le, hs, ht]
  by_cases ha : a = a'
  · subst ha
    have hirrefl : ¬a < a := List.lt_irrefl a
    by_cases hb : b = b'
    · subst hb
      have hirrefl' : ¬b < b := List.lt_irrefl b
      simp only [ne_eq, not_true_eq_false, if_false, hirrefl, hirrefl', true_and, false_or,
        Bool.not_eq_true', decide_eq_false_iff_not]
    · simp only [ne_eq, not_true_eq_false, if_false, hb, not_false_eq_true, if_true,
        decide_eq_true_eq, hirrefl, true_and, false_and, or_false, false_or]
  · simp only [ne_eq, ha, not_false_eq_true, if_true, decide_eq_true_eq, false_and, or_false]

theorem le_total (s t : Name) : le s t || le t s := by
  rcases hs : sortKey s with ⟨a, b, c⟩
  rcases ht : sortKey t with ⟨a', b', c'⟩
  rw [Bool.or_eq_true, le_iff hs ht, le_iff ht hs]
  rcases Units.list_trichotomy a a' with ha | rfl | ha
  · exact .inl (.inl ha)
  · rcases Units.list_trichotomy b b' with hb | rfl | hb
    · exact .inl (.inr ⟨rfl, .inl hb⟩)
    · by_cases hc : c' < c
      · exact .inr (.inr ⟨rfl, .inr ⟨rfl, List.lt_asymm hc⟩⟩)
      · exact .inl (.inr ⟨rfl, .inr ⟨rfl, hc⟩⟩)
    · exact .inr (.inr ⟨rfl, .inl hb⟩)
  · exact .inr (.inl ha)

theorem not_lt_trans {a b c : List Nat} (hab : ¬b < a) (hbc : ¬c < b) : ¬c < a := by
  intro hca
  rcases Units.list_trichotomy a b with hlt | rfl | hgt
  · exact hbc (List.lt_trans hca hlt)
  · exact hbc hca
  · exact hab hgt

theorem le_trans (s t u : Name) (hst : le s t) (htu : le t u) : le s u := by
  rcases hs : sortKey s with ⟨a, b, c⟩
  rcases ht : sortKey t with ⟨a', b', c'⟩
  rcases hu : sortKey u with ⟨a'', b'', c''⟩
  rw [le_iff hs ht] at hst
  rw [le_iff ht hu] at htu
  rw [le_iff hs hu]
  rcases hst with ha | ⟨rfl, hst⟩
  · rcases htu with ha' | ⟨rfl, -⟩
    · exact .inl (List.lt_trans ha ha')
    · exact .inl ha
  · refine htu.imp_right fun ⟨ha, htu⟩ => ⟨ha, ?_⟩
    rcases hst with hb | ⟨rfl, hc⟩
    · rcases htu with hb' | ⟨rfl, -⟩
      · exact .inl (List.lt_trans hb hb')
      · exact .inl hb
    · exact htu.imp_right fun ⟨hb, hc'⟩ => ⟨hb, not_lt_trans hc hc'⟩

def order : NameOrder where
  le := le
  total := le_total
  trans := le_trans

end Collation
end BlobTree
