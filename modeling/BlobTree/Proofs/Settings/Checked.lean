import Mathlib.Data.List.Nodup
import BlobTree.Settings.Environment

/-!
# BlobTree.Proofs.Settings.Checked

Checks put together, and a field of a record that was put together from values which may be there.

* `issues_both`, `issues_map`, `both_ok`: the issues of two checks, and two checks that both pass.
* `Settings.names`, `accountNames`, `loggingNames`: the names that are known.
* `chunkFlaws_nil`: what a number without flaws is.
* `field_compact`: fields keep their values, absent ones included.
-/

namespace BlobTree
namespace Checked

variable {α β : Type}

def issues : Checked α → List Issue
  | .ok _ => []
  | .error is => is

theorem issues_both (a : Checked α) (b : Checked β) :
    issues (both a b) = issues a ++ issues b := by
  cases a <;> cases b <;> simp [both, issues]

theorem issues_map (a : Checked α) (f : α → β) : issues (Except.map f a) = issues a := by
  cases a <;> rfl

theorem both_ok {a : Checked α} {b : Checked β} {x : α} {y : β}
    (h : both a b = .ok (x, y)) : a = .ok x ∧ b = .ok y := by
  cases a <;> cases b <;> simp_all [both]

theorem optional_eq (check : Value → Checked α) (v : Value) :
    optional check v = orElse none (fun v => (check v).map some) v := by
  cases v <;> rfl

theorem map_ok {a : Checked α} {f : α → β} {y : β} (h : Except.map f a = .ok y) :
    ∃ x, a = .ok x ∧ f x = y := by
  cases a with
  | error is => cases h
  | ok x =>
    cases h
    exact ⟨x, rfl, rfl⟩

theorem bind_ok {a : Checked α} {f : α → Checked β} {y : β} (h : Except.bind a f = .ok y) :
    ∃ x, a = .ok x ∧ f x = .ok y := by
  cases a with
  | error is => cases h
  | ok x => exact ⟨x, rfl, h⟩

/-- A number with which nothing is wrong is a whole number of at most the largest size. -/
theorem chunkFlaws_nil {n : Number} :
    chunkFlaws n = [] ↔ ∃ k, 0 < k ∧ k ≤ Settings.maxChunk ∧ n = .ofNat k := by
  constructor
  · intro h
    simp only [chunkFlaws, List.append_eq_nil_iff] at h
    obtain ⟨⟨hint, hpos⟩, hmax⟩ := h
    cases hi : n.toInt? with
    | none => simp [hi] at hint
    | some i =>
      obtain rfl := Number.eq_ofInt_of_toInt? hi
      rw [← Number.ofInt_natCast, Number.le_ofInt] at hpos
      rw [← Number.ofInt_natCast, Number.lt_ofInt] at hmax
      have hpos : 0 < i := by simpa using hpos
      have hmax : i ≤ Settings.maxChunk := by simpa using hmax
      refine ⟨i.toNat, by omega, by omega, ?_⟩
      rw [← Number.ofInt_natCast, Int.toNat_of_nonneg (by omega)]
  · rintro ⟨k, hpos, hmax, rfl⟩
    simp [chunkFlaws, Nat.not_le.mpr hpos, Nat.not_lt.mpr hmax]

theorem issues_chunkSize (path : List String) {n : Number} (hn : n.toInt? ≠ none) :
    issues (chunkSize path (.number n)) = (chunkFlaws n).map fun cause => ⟨path, cause⟩ := by
  have hnan : n ≠ .nan := by
    rintro rfl
    exact hn rfl
  rw [chunkSize, if_neg hnan]
  split
  · next hflaws _ => rw [hflaws]; rfl
  · rfl

section Explains

/-- A check that fails says why. -/
def Explains (a : Checked α) : Prop :=
  a ≠ .error []

theorem Explains.both {a : Checked α} {b : Checked β} (ha : Explains a) (hb : Explains b) :
    Explains (Checked.both a b) := by
  cases a <;> cases b <;> simp_all [Explains, Checked.both]

theorem Explains.map {a : Checked α} (ha : Explains a) (f : α → β) :
    Explains (Except.map f a) := by
  cases a <;> simp_all [Explains, Except.map]

theorem Explains.bind {a : Checked α} {f : α → Checked β} (ha : Explains a)
    (hf : ∀ x, Explains (f x)) : Explains (Except.bind a f) := by
  cases a with
  | error is => simpa [Explains, Except.bind] using ha
  | ok x => exact hf x

theorem explains_flaw (path : List String) (cause : Issue.Cause) :
    Explains (flaw path cause : Checked α) := by
  simp [Explains, flaw]

theorem explains_ok (x : α) : Explains (.ok x : Checked α) := by
  simp [Explains]

theorem Explains.orElse {check : Value → Checked α} (h : ∀ v, Explains (check v)) (default : α)
    (v : Value) : Explains (Checked.orElse default check v) := by
  unfold Checked.orElse
  split
  · exact explains_ok _
  · exact h _

theorem Explains.optional {check : Value → Checked α} (h : ∀ v, Explains (check v)) (v : Value) :
    Explains (Checked.optional check v) := by
  rw [optional_eq]
  exact Explains.orElse (fun v => (h v).map some) none v

variable (path : List String) (v : Value)

theorem explains_text : Explains (text path v) := by
  unfold text
  split
  · exact explains_ok _
  · exact explains_flaw _ _

theorem explains_nonEmpty : Explains (nonEmpty path v) := by
  refine (explains_text path v).bind fun s => ?_
  split
  · exact explains_flaw _ _
  · exact explains_ok _

theorem explains_url : Explains (url path v) := by
  refine (explains_text path v).bind fun s => ?_
  split
  · exact explains_ok _
  · exact explains_flaw _ _

theorem explains_flag : Explains (flag path v) := by
  unfold flag
  split
  · exact explains_ok _
  · exact explains_flaw _ _

theorem explains_named (options : List String) (ofName? : String → Option α) :
    Explains (named path options ofName? v) := by
  unfold named
  split
  · split
    · exact explains_ok _
    · exact explains_flaw _ _
  · exact explains_flaw _ _

/-- A number in which there is no flaw is a size, so the check of it does not fail. -/
theorem explains_chunkSize : Explains (chunkSize path v) := by
  unfold chunkSize
  split
  · split
    · exact explains_flaw _ _
    · split
      · exact explains_ok _
      · next n _ flaws size? hnone =>
        intro h
        have hflaws : chunkFlaws n = [] := by simpa using h
        obtain ⟨k, hpos, -, rfl⟩ := chunkFlaws_nil.mp hflaws
        exact hnone k hflaws (by simp [hpos])
  · exact explains_flaw _ _

theorem explains_record : Explains (record path v) := by
  unfold record
  split
  · exact explains_ok _
  · exact explains_ok _
  · exact explains_flaw _ _

end Explains

end Checked

namespace Settings

open Checked

def names : List String :=
  ["backend", "container", "rootDirectory", "createContainer", "maxChunkSize", "azure", "logging"]

def accountNames : List String :=
  ["connectionString", "accountName", "accountKey", "realm", "accountUrl"]

def loggingNames : List String :=
  ["level", "pretty"]

theorem names_nodup : names.Nodup := by
  decide

theorem accountNames_nodup : accountNames.Nodup := by
  decide

theorem loggingNames_nodup : loggingNames.Nodup := by
  decide

theorem checkAccount_explains (v : Value) : Explains (checkAccount v) := by
  refine (explains_record _ v).bind fun fields => Explains.map ?_ _
  have hgiven := fun name => Explains.optional (explains_nonEmpty ["azure", name])
    (Value.field fields name)
  refine (hgiven _).both <| (hgiven _).both <| (hgiven _).both <| Explains.both ?_ ?_
  · exact Explains.orElse (explains_nonEmpty _) _ _
  · exact Explains.optional (explains_url _) _

theorem checkLogging_explains (v : Value) : Explains (checkLogging v) := by
  refine (explains_record _ v).bind fun fields => Explains.map (Explains.both ?_ ?_) _
  · exact Explains.orElse (fun v => explains_named _ v _ _) _ _
  · exact Explains.orElse (explains_flag _) _ _

theorem checkFields_explains (fields : List (String × Value)) :
    Explains (checkFields fields) := by
  refine Explains.map (Explains.both ?_ <| Explains.both ?_ <| Explains.both ?_ <|
    Explains.both ?_ <| Explains.both ?_ <| Explains.both ?_ ?_) _
  · exact Explains.orElse (fun v => explains_named _ v _ _) _ _
  · exact explains_nonEmpty _ _
  · exact Explains.orElse (explains_text _) _ _
  · exact Explains.orElse (explains_flag _) _ _
  · exact Explains.orElse (explains_chunkSize _) _ _
  · exact Explains.optional checkAccount_explains _
  · exact Explains.orElse checkLogging_explains _ _

/-- The settings as a whole are looked at unless an issue with a field stops that. -/
theorem issues_check (fields : List (String × Value)) :
    issues (check (.record fields)) = issues (checkFields fields) ++
      if (issues (checkFields fields)).any Issue.stops then [] else overallIssues fields := by
  simp only [check, record, Except.bind]
  cases checkFields fields with
  | error is =>
    by_cases hstops : is.any Issue.stops
    · simp only [hstops, if_true, issues, List.append_nil]
    · simp only [hstops, Bool.false_eq_true, if_false, issues]
  | ok s => cases overallIssues fields <;> rfl

theorem check_explains (v : Value) : Explains (check v) := by
  refine (explains_record _ v).bind fun fields => ?_
  have hfields := checkFields_explains fields
  cases hcheck : checkFields fields with
  | error is =>
    rw [hcheck] at hfields
    dsimp only
    split
    · exact hfields
    · intro h
      cases is with
      | nil => exact hfields rfl
      | cons i is => cases h
  | ok s => cases overallIssues fields <;> simp [Explains]

end Settings

namespace Environment

theorem mem_compact {fields : List (String × Option Value)} {name : String} {v : Value} :
    (name, v) ∈ compact fields ↔ (name, some v) ∈ fields := by
  simp only [compact, List.mem_filterMap, Option.map_eq_some_iff, Prod.mk.injEq, Prod.exists]
  constructor
  · rintro ⟨name', v?, h, v', rfl, rfl, rfl⟩
    exact h
  · intro h
    exact ⟨name, some v, h, v, rfl, rfl, rfl⟩

theorem field_compact {fields : List (String × Option Value)} (hnames : (fields.map (·.1)).Nodup)
    {name : String} {v? : Option Value} (h : (name, v?) ∈ fields) :
    Value.field (compact fields) name = v?.getD .absent := by
  have hunique : ∀ v?', (name, v?') ∈ fields → v?' = v? := by
    intro v?' h'
    have := List.inj_on_of_nodup_map hnames h' h rfl
    cases this
    rfl
  unfold Value.field
  cases hfind : (compact fields).reverse.find? (·.1 = name) with
  | none =>
    cases v? with
    | none => rfl
    | some v =>
      have hmem := mem_compact.mpr h
      have := List.find?_eq_none.mp hfind (name, v) (List.mem_reverse.mpr hmem)
      simp at this
  | some field =>
    obtain ⟨name', v⟩ := field
    have hname : name' = name := by simpa using List.find?_some hfind
    have hmem := List.mem_reverse.mp (List.mem_of_find?_eq_some hfind)
    rw [hname] at hmem
    rw [← hunique _ (mem_compact.mp hmem)]
    rfl

end Environment
end BlobTree
