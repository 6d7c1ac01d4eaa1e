/-!
# BlobTree.Text.Units

Names and their order. A name (a key, a path, a listing marker) is any sequence of characters;
names are ordered by the 16-bit units of their UTF-16 form, so a character outside the basic
plane comes before `U+E000`.

* `Units.ofName_injective`: the units determine the name, so the order is strict and total
  (`Units.trichotomy`).
* `Units.spell` reads units back.
* `NameOrder`: an order of names in which different ones may be equal, such as the alphabetical
  order of a host; `NameOrder.through` orders names by what counts of them.
-/

namespace BlobTree

/-- A key, a path, a marker or a prefix. -/
abbrev Name := List Char

namespace Units

/-- The units of one character: the character itself below `0x10000`, else a surrogate pair. -/
def ofChar (c : Char) : List Nat :=
  let n := c.toNat
  if n < 0x10000 then [n] else [0xD800 + (n - 0x10000) / 0x400, 0xDC00 + (n - 0x10000) % 0x400]

def ofName (s : Name) : List Nat :=
  s.flatMap ofChar

/-- No character's units start another's, because a lone unit is never a surrogate. -/
theorem ofChar_append_inj {a b : Char} {x y : List Nat}
    (h : ofChar a ++ x = ofChar b ++ y) : a = b ∧ x = y := by
  have toNat_inj : a.toNat = b.toNat → a = b := fun e =>
    Char.ext (UInt32.toNat_inj.mp e)
  have ha : a.toNat < 0xD800 ∨ (0xDFFF < a.toNat ∧ a.toNat < 0x110000) := a.valid
  have hb : b.toNat < 0xD800 ∨ (0xDFFF < b.toNat ∧ b.toNat < 0x110000) := b.valid
  simp only [ofChar] at h
  split at h <;> split at h <;> simp only [List.cons_append, List.nil_append, List.cons.injEq] at h
  · exact ⟨toNat_inj h.1, h.2⟩
  · omega
  · omega
  · exact ⟨toNat_inj (by omega), h.2.2⟩

theorem ofName_injective {s t : Name} (h : ofName s = ofName t) : s = t := by
  induction s generalizing t with
  | nil =>
    cases t with
    | nil => rfl
    | cons c r =>
      simp only [ofName, List.flatMap_nil, List.flatMap_cons, ofChar] at h
      split at h <;> simp at h
  | cons a s ih =>
    cases t with
    | nil =>
      simp only [ofName, List.flatMap_nil, List.flatMap_cons, ofChar] at h
      split at h <;> simp at h
    | cons b t =>
      obtain ⟨rfl, tails⟩ := ofChar_append_inj (a := a) (b := b) h
      rw [ih tails]

def isHigh (u : Nat) : Bool :=
  0xD800 ≤ u && u < 0xDC00

def isLow (u : Nat) : Bool :=
  0xDC00 ≤ u && u < 0xE000

/-- The name that units spell. Half of a surrogate pair alone spells nothing readable. -/
def spell : List Nat → Name
  | [] => []
  | [u] => [if isHigh u || isLow u then '\ufffd' else Char.ofNat u]
  | u :: v :: rest =>
    if isHigh u && isLow v then
      Char.ofNat (0x10000 + (u - 0xD800) * 0x400 + (v - 0xDC00)) :: spell rest
    else (if isHigh u || isLow u then '\ufffd' else Char.ofNat u) :: spell (v :: rest)

/-- Strictly before, unit by unit. -/
def Lt (s t : Name) : Prop :=
  ofName s < ofName t

instance (s t : Name) : Decidable (Lt s t) :=
  inferInstanceAs (Decidable (ofName s < ofName t))

/-- Before or equal, as a test for sorting. -/
def le (s t : Name) : Bool :=
  !decide (Lt t s)

theorem lt_irrefl (s : Name) : ¬Lt s s :=
  List.lt_irrefl _

theorem lt_trans {s t u : Name} : Lt s t → Lt t u → Lt s u :=
  List.lt_trans

theorem lt_asymm {s t : Name} : Lt s t → ¬Lt t s :=
  List.lt_asymm

theorem list_trichotomy (a b : List Nat) : a < b ∨ a = b ∨ b < a := by
  by_cases h : a < b
  · exact .inl h
  · by_cases h' : b < a
    · exact .inr (.inr h')
    · exact .inr (.inl (List.le_antisymm (List.not_lt.mp h') (List.not_lt.mp h)))

theorem trichotomy (s t : Name) : Lt s t ∨ s = t ∨ Lt t s := by
  rcases list_trichotomy (ofName s) (ofName t) with hlt | heq | hgt
  · exact .inl hlt
  · exact .inr (.inl (ofName_injective heq))
  · exact .inr (.inr hgt)

theorem nodup_of_ascending {names : List Name} (h : names.Pairwise Lt) : names.Nodup :=
  h.imp fun hlt => by
    rintro rfl
    exact lt_irrefl _ hlt

theorem lt_of_not_lt_of_lt {s t u : Name} (h : ¬Lt t s) (h' : Lt t u) : Lt s u := by
  rcases trichotomy s t with hlt | heq | hgt
  · exact lt_trans hlt h'
  · exact heq ▸ h'
  · exact absurd hgt h

/-- The empty name comes first. -/
theorem not_lt_nil (s : Name) : ¬Lt s [] :=
  List.not_lt_nil _

theorem le_iff {s t : Name} : le s t ↔ ¬Lt t s := by
  simp [le]

theorem le_total (s t : Name) : le s t || le t s := by
  rw [Bool.or_eq_true, le_iff, le_iff]
  by_cases h : Lt t s
  · exact .inr (lt_asymm h)
  · exact .inl h

theorem le_trans (s t u : Name) (hst : le s t) (htu : le t u) : le s u :=
  le_iff.mpr fun hus => le_iff.mp hst (lt_of_not_lt_of_lt (le_iff.mp htu) hus)

end Units

/-- An order in which any two names stand one way or the other; different names may be equal in
it. -/
structure NameOrder where
  le : Name → Name → Bool
  total : ∀ s t, le s t || le t s
  trans : ∀ s t u, le s t → le t u → le s u

namespace NameOrder

/-- Names by what counts of them, unit by unit. -/
def through (counted : Name → Name) : NameOrder where
  le s t := Units.le (counted s) (counted t)
  total _ _ := Units.le_total _ _
  trans _ _ _ := Units.le_trans _ _ _

def units : NameOrder :=
  through id

end NameOrder
end BlobTree
