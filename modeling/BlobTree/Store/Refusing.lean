import BlobTree.Store.Call

/-!
# BlobTree.Store.Refusing

A store that refuses the calls that a plan names. The plan is used up call by call; a refused call
does not reach the store below, and what comes after the end of the plan passes.

* `refusing_refused`, `refusing_passed`: what one call does; `plan_cases`: it is one of the two.
-/

namespace BlobTree

/-- A store and what happens to the calls to come: a refusal each, or none. -/
structure Refusing (σ : Type) where
  store : σ
  plan : List (Option StoreError) := []
  deriving DecidableEq, Inhabited

namespace Backend

variable {σ : Type}

def refusing (b : Backend σ) : Backend (Refusing σ) where
  maxPutSize := b.maxPutSize
  maxAppendSize := b.maxAppendSize
  answer s c :=
    match s.plan with
    | some e :: plan => (.error e, { s with plan })
    | plan =>
      let (reply, store) := b.answer s.store c
      (reply, { store, plan := plan.tail })

theorem refusing_refused (b : Backend σ) (store : σ) (e : StoreError)
    (plan : List (Option StoreError)) (c : Call) :
    b.refusing.answer ⟨store, some e :: plan⟩ c = (.error e, ⟨store, plan⟩) := rfl

theorem refusing_passed (b : Backend σ) {s : Refusing σ} (h : s.plan.head?.join = none) (c : Call) :
    b.refusing.answer s c = ((b.answer s.store c).1, ⟨(b.answer s.store c).2, s.plan.tail⟩) := by
  obtain ⟨store, plan⟩ := s
  cases plan with
  | nil => rfl
  | cons r plan =>
    cases r with
    | none => rfl
    | some e => simp at h

end Backend

theorem plan_cases (plan : List (Option StoreError)) :
    (∃ e, plan = some e :: plan.tail) ∨ plan.head?.join = none := by
  rcases plan with _ | ⟨_ | e, plan⟩
  · exact .inr rfl
  · exact .inr rfl
  · exact .inl ⟨e, rfl⟩

end BlobTree
