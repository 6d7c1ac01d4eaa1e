import BlobTree.Action

/-!
# BlobTree.Proofs.Execution

What an action does to the store, journal and counters aside. `x.Gives s r s'` says that from
every world whose store is `s` the action `x` ends with `r` and leaves the store `s'`; there is
one rule for each combinator, so that an operation is followed call by call and its definition is
opened once.

* `exec_bind_ok`, `exec_attempt_bind_ok` and their kin: the run of a sequence, from the run of its
  first part.
* `Gives.bind`, `Gives.bind_error`, `Gives.map`: in sequence.
* `Gives.attempt_ok`, `Gives.attempt_failed`, `Gives.measured`: around an action.
* `Keeps.bind`, `Keeps.attempt`, `Keeps.measured`: the same for an invariant of the store.
-/

namespace BlobTree
namespace Action

variable {σ α β : Type}

section Exec

variable {x : Action σ α} {f : α → Action σ β} {g : Except Failure α → Action σ β}
  {w w' : World σ} {a : α}

theorem exec_bind_ok (h : x.exec w = (.ok a, w')) : (x >>= f).exec w = (f a).exec w' := by
  rw [exec_bind, h]

theorem exec_bind_error {e : Stop} (h : x.exec w = (.error e, w')) :
    (x >>= f).exec w = (.error e, w') := by
  rw [exec_bind, h]

theorem exec_attempt_bind_ok (h : x.exec w = (.ok a, w')) :
    (attempt x >>= g).exec w = (g (.ok a)).exec w' :=
  exec_bind_ok (by rw [exec_attempt, h])

theorem exec_attempt_bind_failed {e : Failure} (h : x.exec w = (.error (.failed e), w')) :
    (attempt x >>= g).exec w = (g (.error e)).exec w' :=
  exec_bind_ok (by rw [exec_attempt, h])

theorem exec_attempt_bind_unfinished (h : x.exec w = (.error .unfinished, w')) :
    (attempt x >>= g).exec w = (.error .unfinished, w') :=
  exec_bind_error (by rw [exec_attempt, h])

theorem exec_of_attempt_ok (h : (attempt x).exec w = (.ok (.ok a), w')) :
    x.exec w = (.ok a, w') := by
  rw [exec_attempt] at h
  rcases hrun : x.exec w with ⟨(f | _) | a', w''⟩
  · rw [hrun] at h
    cases h
  · rw [hrun] at h
    cases h
  · rw [hrun] at h
    cases h
    rfl

/-- Counting an action changes neither how it ends nor the store. -/
theorem exec_measured_eq (name : Name) (x : Action σ α) (labels : Option Labels) (w : World σ) :
    ((measured name x labels).exec w).1 = (x.exec w).1 ∧
      ((measured name x labels).exec w).2.store = (x.exec w).2.store := by
  rw [exec_measured]
  obtain ⟨(f | _) | a, w'⟩ := x.exec w <;> exact ⟨rfl, rfl⟩

end Exec

def Gives (x : Action σ α) (s : σ) (r : Except Stop α) (s' : σ) : Prop :=
  ∀ w : World σ, w.store = s → ∃ w', x.exec w = (r, w') ∧ w'.store = s'

variable {b : Backend σ} {x : Action σ α} {f : α → Action σ β} {s s' s'' : σ} {a : α}

theorem Gives.exec {w : World σ} {r : Except Stop α} (h : x.Gives w.store r s') :
    (x.exec w).1 = r ∧ (x.exec w).2.store = s' := by
  obtain ⟨w', hx, hs⟩ := h w rfl
  rw [hx]
  exact ⟨rfl, hs⟩

theorem Gives.unique {r r' : Except Stop α} (h : x.Gives s r s') (h' : x.Gives s r' s'') :
    r = r' ∧ s' = s'' := by
  obtain ⟨w', hx, rfl⟩ := h (.fresh s) rfl
  obtain ⟨w'', hx', rfl⟩ := h' (.fresh s) rfl
  rw [hx] at hx'
  cases hx'
  exact ⟨rfl, rfl⟩

theorem gives_pure (a : α) (s : σ) : (pure a : Action σ α).Gives s (.ok a) s :=
  fun w hw => ⟨w, rfl, hw⟩

theorem gives_fail (f : Failure) (s : σ) : (fail f : Action σ α).Gives s (.error (.failed f)) s :=
  fun w hw => ⟨w, rfl, hw⟩

theorem gives_unfinished (s : σ) : (unfinished : Action σ α).Gives s (.error .unfinished) s :=
  fun w hw => ⟨w, rfl, hw⟩

theorem gives_log (l : Logger) (level : Level) (fields : Fields) (message : String) (s : σ) :
    (log l level fields message : Action σ Unit).Gives s (.ok ()) s :=
  fun _ hw => ⟨_, rfl, hw⟩

theorem gives_ofExcept (r : Except Failure α) (s : σ) :
    (ofExcept r).Gives s (r.mapError .failed) s := by
  cases r with
  | ok a => exact gives_pure a s
  | error f => exact gives_fail f s

theorem gives_call (b : Backend σ) (c : Call) (s : σ) :
    (call b c).Gives s ((b.answer s c).1.mapError fun e => .failed (.store e))
      (b.answer s c).2 := by
  rintro w rfl
  exact ⟨_, rfl, rfl⟩

theorem gives_call_ok {c : Call} {a : c.Reply} (h : b.answer s c = (.ok a, s')) :
    (call b c).Gives s (.ok a) s' := by
  have hcall := gives_call b c s
  rwa [h] at hcall

theorem Gives.bind {r : Except Stop β} (hx : x.Gives s (.ok a) s') (hf : (f a).Gives s' r s'') :
    (x >>= f).Gives s r s'' := by
  intro w hw
  obtain ⟨w', hr, hs⟩ := hx w hw
  rw [exec_bind_ok hr]
  exact hf w' hs

theorem Gives.bind_error {e : Stop} (hx : x.Gives s (.error e) s') :
    (x >>= f).Gives s (.error e) s' := by
  intro w hw
  obtain ⟨w', hr, hs⟩ := hx w hw
  exact ⟨w', exec_bind_error hr, hs⟩

theorem Gives.map {r : Except Stop α} (hx : x.Gives s r s') (g : α → β) :
    (x >>= fun a => pure (g a)).Gives s (r.map g) s' := by
  cases r with
  | ok a => exact hx.bind (gives_pure _ s')
  | error e => exact hx.bind_error

theorem Gives.attempt_ok (hx : x.Gives s (.ok a) s') : (attempt x).Gives s (.ok (.ok a)) s' := by
  intro w hw
  obtain ⟨w', hr, hs⟩ := hx w hw
  rw [exec_attempt, hr]
  exact ⟨w', rfl, hs⟩

theorem Gives.attempt_failed {e : Failure} (hx : x.Gives s (.error (.failed e)) s') :
    (attempt x).Gives s (.ok (.error e)) s' := by
  intro w hw
  obtain ⟨w', hr, hs⟩ := hx w hw
  rw [exec_attempt, hr]
  exact ⟨w', rfl, hs⟩

theorem Gives.measured {r : Except Stop α} (hx : x.Gives s r s') (name : Name)
    (labels : Option Labels) : (measured name x labels).Gives s r s' := by
  intro w hw
  obtain ⟨w', hr, hs⟩ := hx w hw
  obtain ⟨hend, hstore⟩ := exec_measured_eq name x labels w
  rw [hr] at hend hstore
  exact ⟨((Action.measured name x labels).exec w).2, Prod.ext hend rfl, hstore.trans hs⟩

/-- An action that keeps an invariant of the store, and what is then known of its value. -/
def Keeps (inv : σ → Prop) (x : Action σ α) (Q : α → Prop) : Prop :=
  ∀ w, inv w.store → inv (x.exec w).2.store ∧ ∀ a, (x.exec w).1 = .ok a → Q a

variable {inv : σ → Prop} {Q : α → Prop} {R : β → Prop}

theorem keeps_of_gives (h : ∀ s, inv s → ∃ r s', x.Gives s r s' ∧ inv s' ∧ ∀ a, r = .ok a → Q a) :
    x.Keeps inv Q := by
  intro w hw
  obtain ⟨r, s', hgives, hinv, hvalue⟩ := h w.store hw
  obtain ⟨hend, hstore⟩ := hgives.exec
  rw [hend, hstore]
  exact ⟨hinv, hvalue⟩

theorem Keeps.bind (hx : x.Keeps inv Q) (hf : ∀ a, Q a → (f a).Keeps inv R) :
    (x >>= f).Keeps inv R := by
  intro w hw
  obtain ⟨hinv, hvalue⟩ := hx w hw
  rcases hrun : x.exec w with ⟨e | a, w'⟩
  · rw [exec_bind_error hrun]
    rw [hrun] at hinv
    exact ⟨hinv, by simp⟩
  · rw [exec_bind_ok hrun]
    rw [hrun] at hinv hvalue
    exact hf a (hvalue a rfl) w' hinv

theorem Keeps.attempt (hx : x.Keeps inv Q) :
    (Action.attempt x).Keeps inv fun r => ∀ a, r = .ok a → Q a := by
  intro w hw
  obtain ⟨hinv, hvalue⟩ := hx w hw
  rw [exec_attempt]
  rcases hrun : x.exec w with ⟨(e | _) | a, w'⟩ <;> rw [hrun] at hinv hvalue
  · exact ⟨hinv, by simp⟩
  · exact ⟨hinv, by simp⟩
  · refine ⟨hinv, fun r hr a' heq => hvalue a' ?_⟩
    cases hr
    cases heq
    rfl

theorem Keeps.measured (hx : x.Keeps inv Q) (name : Name) (labels : Option Labels) :
    (Action.measured name x labels).Keeps inv Q := by
  intro w hw
  obtain ⟨hend, hstore⟩ := exec_measured_eq name x labels w
  rw [hend, hstore]
  exact hx w hw

end Action
end BlobTree
