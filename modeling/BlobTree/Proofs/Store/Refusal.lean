import BlobTree.Store.Traced

/-!
# BlobTree.Proofs.Store.Refusal

What becomes of a call that the store refuses for another reason than that there is no object.
`PassedOn s s' reports` says of every such call between two traced states that none came after it
and that its failure is reported; there is one rule for a single call and one for a sequence.

* `PassedOn.call`: one call.
* `PassedOn.trans`: a sequence whose first part has nothing to report.
-/

namespace BlobTree

variable {σ : Type}

/-- Why a call was refused, unless it was for want of an object. -/
def Event.refusal (e : Event σ) : Option StoreError :=
  match e.reply with
  | .ok _ | .error (.notFound _) => none
  | .error err => some err

/-- Between two states, a refused call is the last one and its failure is reported. -/
def PassedOn (s s' : Traced σ) (reports : StoreError → Prop) : Prop :=
  ∃ events, s'.events = s.events ++ events ∧
    ∀ before e after err, events = before ++ e :: after → e.refusal = some err →
      after = [] ∧ reports err

theorem Event.reply_of_refusal {e : Event σ} {err : StoreError} (h : e.refusal = some err) :
    e.reply = .error err ∧ ∀ key, err ≠ .notFound key := by
  obtain ⟨s, c, reply⟩ := e
  cases reply with
  | ok a => cases h
  | error err' => cases err' <;> cases h <;> exact ⟨rfl, by simp⟩

namespace PassedOn

variable {s s' s'' : Traced σ} {reports reports' : StoreError → Prop}

theorem refl (s : Traced σ) (reports : StoreError → Prop) : PassedOn s s reports :=
  ⟨[], by simp, fun before e after err h => by simp at h⟩

theorem mono (h : PassedOn s s' reports)
    (hreports : ∀ err, (∀ key, err ≠ .notFound key) → reports err → reports' err) :
    PassedOn s s' reports' := by
  obtain ⟨events, hevents, hlast⟩ := h
  refine ⟨events, hevents, fun before e after err heq herr => ?_⟩
  obtain ⟨hafter, hrep⟩ := hlast before e after err heq herr
  exact ⟨hafter, hreports err (Event.reply_of_refusal herr).2 hrep⟩

theorem call (b : Backend σ) (s : Traced σ) (c : Call) :
    PassedOn s (b.traced.answer s c).2 fun err => (b.traced.answer s c).1 = .error err := by
  refine ⟨[⟨s.store, c, (b.answer s.store c).1⟩], rfl, fun before e after err heq herr => ?_⟩
  rcases List.append_eq_singleton_iff.mp heq.symm with ⟨-, hone⟩ | ⟨-, hnone⟩
  · cases hone
    exact ⟨rfl, (Event.reply_of_refusal herr).1⟩
  · cases hnone

theorem trans (h : PassedOn s s' reports) (hnone : ∀ err, ¬reports err)
    (h' : PassedOn s' s'' reports') : PassedOn s s'' reports' := by
  obtain ⟨events, hevents, hlast⟩ := h
  obtain ⟨events', hevents', hlast'⟩ := h'
  refine ⟨events ++ events', by rw [hevents', hevents, List.append_assoc],
    fun before e after err heq herr => ?_⟩
  rcases List.append_eq_append_iff.mp heq with ⟨mid, -, hmid⟩ | ⟨mid, hmid, hrest⟩
  · exact hlast' mid e after err hmid herr
  · cases mid with
    | nil => exact hlast' [] e after err hrest.symm herr
    | cons e' mid =>
      -- The call would be one of the first part, which has reported nothing.
      obtain ⟨rfl, -⟩ := List.cons.inj hrest
      exact absurd (hlast before e mid err hmid herr).2 (hnone err)

end PassedOn
end BlobTree
