import BlobTree.Proofs.Execution

/-!
# BlobTree.Proofs.Tally

What an action adds to the counters. Measuring is the only thing that changes them, so an action in
which nothing is measured leaves them as they are, whatever the store answers; and since sums are
rounded, a counter that is raised by one each time stands at the number of times as far as `2^53`
and stays there.

* `World.books`: the counters, and the host, whose clock runs on as they change.
* `Quiet`: an action in which nothing is measured, and which failures it may end with; one rule for
  each combinator.
-/

namespace BlobTree

/-- A whole number as far as `2^53`, where adding one no longer changes it. -/
def Number.upTo (n : Nat) : Number :=
  .ofNat (Nat.min n Number.exactBound)

theorem Number.upTo_succ (n : Nat) : (upTo n).plus (.ofNat 1) = upTo (n + 1) := by
  by_cases h : n < exactBound
  · have hn : Nat.min n exactBound = n := Nat.min_eq_left (Nat.le_of_lt h)
    have hsucc : Nat.min (n + 1) exactBound = n + 1 := Nat.min_eq_left h
    rw [upTo, upTo, hn, hsucc]
    exact shift_add (k := 1) h
  · have hn : Nat.min n exactBound = exactBound := Nat.min_eq_right (by omega)
    have hsucc : Nat.min (n + 1) exactBound = exactBound := Nat.min_eq_right (by omega)
    rw [upTo, upTo, hn, hsucc]
    decide +kernel

def World.books {σ : Type} (w : World σ) : Counters × Host :=
  (w.counters, w.host)

namespace Action

variable {σ α β : Type} {p : Failure → Prop}

/-- An action in which nothing is measured and which fails, if it does, as `p` allows. -/
def Quiet (p : Failure → Prop) (x : Action σ α) : Prop :=
  ∀ w, (x.exec w).2.books = w.books ∧ ∀ f, (x.exec w).1 = .error (.failed f) → p f

theorem quiet_pure (a : α) : Quiet p (pure a : Action σ α) :=
  fun _ => ⟨rfl, by simp⟩

theorem quiet_fail {f : Failure} (h : p f) : Quiet p (fail f : Action σ α) := by
  refine fun _ => ⟨rfl, ?_⟩
  rintro _ ⟨⟩
  exact h

theorem quiet_unfinished : Quiet p (unfinished : Action σ α) :=
  fun _ => ⟨rfl, by simp⟩

theorem quiet_log (l : Logger) (level : Level) (fields : Fields) (message : String) :
    Quiet p (log l level fields message : Action σ Unit) :=
  fun _ => ⟨rfl, by simp [exec_log]⟩

theorem quiet_ofExcept {r : Except Failure α} (h : ∀ f, r = .error f → p f) :
    Quiet p (ofExcept r : Action σ α) := by
  cases r with
  | ok a => exact quiet_pure a
  | error f => exact quiet_fail (h f rfl)

theorem quiet_call (b : Backend σ) (c : Call) (h : ∀ e, p (.store e)) : Quiet p (call b c) := by
  intro w
  rw [exec_call]
  refine ⟨rfl, ?_⟩
  cases (b.answer w.store c).1 with
  | ok a => rintro _ ⟨⟩
  | error e =>
    rintro _ ⟨⟩
    exact h e

variable {x : Action σ α}

theorem Quiet.bind {f : α → Action σ β} (hx : Quiet p x) (hf : ∀ a, Quiet p (f a)) :
    Quiet p (x >>= f) := by
  intro w
  obtain ⟨hbooks, hfailed⟩ := hx w
  rcases hrun : x.exec w with ⟨e | a, w'⟩ <;> rw [hrun] at hbooks hfailed
  · rw [exec_bind_error hrun]
    refine ⟨hbooks, fun g hg => hfailed g ?_⟩
    cases hg
    rfl
  · rw [exec_bind_ok hrun]
    obtain ⟨hrest, hfailed⟩ := hf a w'
    exact ⟨hrest.trans hbooks, hfailed⟩

theorem quiet_pure_bind {a : α} {f : α → Action σ β} (h : Quiet p (f a)) :
    Quiet p (pure a >>= f) :=
  h

theorem Quiet.mapFailure {q : Failure → Prop} {g : Failure → Failure} (hx : Quiet q x)
    (hg : ∀ f, q f → p (g f)) : Quiet p (Action.mapFailure g x) := by
  intro w
  obtain ⟨hbooks, hfailed⟩ := hx w
  rw [exec_mapFailure]
  rcases hrun : x.exec w with ⟨(e | _) | a, w'⟩ <;> rw [hrun] at hbooks hfailed
  · refine ⟨hbooks, ?_⟩
    rintro _ ⟨⟩
    exact hg e (hfailed e rfl)
  · exact ⟨hbooks, by simp⟩
  · exact ⟨hbooks, by simp⟩

/-- What fails is handed on, so it may be raised again. -/
theorem Quiet.recover {f : Except Failure α → Action σ β} (hx : Quiet p x)
    (hok : ∀ a, Quiet p (f (.ok a))) (hfailed : ∀ e, p e → Quiet p (f (.error e))) :
    Quiet p (attempt x >>= f) := by
  intro w
  obtain ⟨hbooks, hp⟩ := hx w
  rcases hrun : x.exec w with ⟨(e | _) | a, w'⟩ <;> rw [hrun] at hbooks hp
  · rw [exec_attempt_bind_failed hrun, ← hbooks]
    exact hfailed e (hp e rfl) w'
  · rw [exec_attempt_bind_unfinished hrun]
    exact ⟨hbooks, by simp⟩
  · rw [exec_attempt_bind_ok hrun, ← hbooks]
    exact hok a w'

theorem Quiet.ite {c : Prop} [Decidable c] {y : Action σ α} (hx : c → Quiet p x)
    (hy : ¬c → Quiet p y) : Quiet p (if c then x else y) := by
  by_cases hc : c
  · rw [if_pos hc]
    exact hx hc
  · rw [if_neg hc]
    exact hy hc

theorem quiet_forM {γ : Type} {f : γ → Action σ PUnit} (h : ∀ c, Quiet p (f c)) (cs : List γ) :
    Quiet p (cs.forM f) := by
  induction cs with
  | nil => exact quiet_pure _
  | cons c rest ih => exact (h c).bind fun _ => ih

end Action
end BlobTree
