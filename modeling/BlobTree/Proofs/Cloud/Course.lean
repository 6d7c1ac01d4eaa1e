import BlobTree.FileTree.Operation
import BlobTree.Proofs.Cloud.Exchange

/-!
# BlobTree.Proofs.Cloud.Course

How an action goes on after each reply of the service, told from the front: a reply lets it go on,
or the action ends there with what the reply says. What that is depends on the operation (`Terms`).

* `Course`: one constructor for each thing that a reply can be; `Course.passes`: what an action
  that did not fail with a failure of the store has behind it.
* `Follows`: an action keeps to its terms; one rule for each call, and `Follows.seq` and
  `Follows.recover` where the terms do not look ahead (`Steady`).
-/

namespace BlobTree
namespace Cloud

open BlobTree.Action BlobTree.FileTree

/-- What an operation makes of what it is told. -/
structure Terms where
  /-- The path that a missing object is reported as, given all that was exchanged before. -/
  concerned : List Exchanged → Exchanged → Name → Prop := fun _ _ _ => False
  /-- How it goes on when there is no object to describe, and ends. -/
  continues : Exchanged → Except Stop Answer → List Exchanged → Prop := fun _ _ _ => False
  /-- What becomes of a stream that is downloaded. -/
  streamed : ByteStream → Except Stop Answer → Prop := fun _ _ => False
  /-- Failures that do not come from the service. -/
  own : StoreError → Prop := fun _ => False

/-- The exchanges of an action, after some others, and how it ends. -/
inductive Course (T : Terms) : List Exchanged → Except Stop Answer → List Exchanged → Prop where
  | ended {before : List Exchanged} {r : Except Stop Answer}
      (h : ∀ err, r = .error (.failed (.store err)) → T.own err) : Course T before r []
  | passed {before after : List Exchanged} {e : Exchanged} {r : Except Stop Answer}
      (hfault : e.fault? = none) (hstream : e.stream? = none)
      (hafter : Course T (before ++ [e]) r after) : Course T before r (e :: after)
  | undescribed {before after : List Exchanged} {e : Exchanged} {r : Except Stop Answer}
      (h : e.Undescribed) (hcontinues : T.continues e r after)
      (hafter : Course T (before ++ [e]) r after) : Course T before r (e :: after)
  | refused {before : List Exchanged} {e : Exchanged} {f : Fault} (hfault : e.fault? = some f)
      (hmissing : ¬e.Missing) (hundescribed : ¬e.Undescribed) :
      Course T before (.error (.failed (.store f.error))) [e]
  | missing {before : List Exchanged} {e : Exchanged} {path : Name} (h : e.Missing)
      (hpath : T.concerned before e path) :
      Course T before (.error (.failed (.pathNotFound path))) [e]
  | streamed {before : List Exchanged} {e : Exchanged} {s : ByteStream} {r : Except Stop Answer}
      (hstream : e.stream? = some s) (hr : T.streamed s r)
      (hbroken : ∀ err, r = .error (.failed (.store err)) → s.error? = some err) :
      Course T before r [e]
  | bodiless {before : List Exchanged} {e : Exchanged} {key : Name} (h : e.Bodiless key) :
      Course T before (.error (.failed (.store (.noContent key)))) [e]

/-- Terms that tell no missing object and no stream, and do not look ahead further than they have
to. -/
structure Terms.Steady (T : Terms) : Prop where
  concerned : ∀ before e path, ¬T.concerned before e path
  streamed : ∀ s r, ¬T.streamed s r
  continues : ∀ e r r' after later, T.continues e r after → T.continues e r' (after ++ later)

variable {T : Terms} {before es later : List Exchanged} {r r' : Except Stop Answer}

/-- Exchanges after which an action has not failed with a failure of the store can be followed by
any others. -/
theorem Course.passes (hT : T.Steady) (h : Course T before r es)
    (hr : ∀ err, r ≠ .error (.failed (.store err))) (hlater : Course T (before ++ es) r' later) :
    Course T before r' (es ++ later) := by
  -- the other constructors end with a failure of the store or need terms that are not steady
  induction h with
  | ended => simpa using hlater
  | passed hfault hstream _ ih => exact .passed hfault hstream (ih hr (by simpa using hlater))
  | undescribed h hcontinues _ ih =>
    exact .undescribed h (hT.continues _ _ _ _ _ hcontinues) (ih hr (by simpa using hlater))
  | refused => exact absurd rfl (hr _)
  | missing _ hpath => exact absurd hpath (hT.concerned _ _ _)
  | streamed _ hr' => exact absurd hr' (hT.streamed _ _)
  | bodiless => exact absurd rfl (hr _)

theorem course_ended (hr : ∀ err, r ≠ .error (.failed (.store err))) : Course T before r [] :=
  .ended fun err h => absurd h (hr err)

/-- A refusal that does not say that there is no object. -/
theorem course_refused {q : Request} {f : Fault}
    (h : (q.seeks = false ∧ q.describes = false) ∨ ¬f.Absent) :
    Course T before (.error (.failed (.store f.error))) [⟨q, .error f⟩] := by
  refine .refused rfl ?_ ?_ <;> rcases h with ⟨hseeks, hdescribes⟩ | h <;>
    simp_all [Exchanged.Missing, Exchanged.Undescribed]

/-- A refusal of a request that needs an object, reported as a path. -/
theorem course_sought {q : Request} {f : Fault} (hseeks : q.seeks = true) {path : Name}
    (hpath : T.concerned before ⟨q, .error f⟩ path) (key : Name) :
    Course T before (.error (.failed (Failure.atPath path (.store (f.about key)))))
      [⟨q, .error f⟩] := by
  by_cases h : f.Absent
  · have hmissing : (⟨q, .error f⟩ : Exchanged).Missing := ⟨hseeks, by simpa using h⟩
    obtain ⟨message, rfl⟩ := h
    exact .missing hmissing hpath
  · have hatPath : Failure.atPath path (.store f.error) = .store f.error := by cases f <;> rfl
    rw [Fault.about_of_not_absent h, hatPath]
    exact course_refused (.inr h)

variable {σ α β : Type} {client : Client σ} {g : α → Answer} {g' : β → Answer}

/-- An action keeps to its terms after what was exchanged before, however its value is read. -/
def Follows (T : Terms) (before : List Exchanged) (g : α → Answer)
    (x : Action (Link (Transcript σ)) α) : Prop :=
  x.Asks fun r es => Course T before (r.map g) es

section Rules

variable {x : Action (Link (Transcript σ)) α} {k : α → Action (Link (Transcript σ)) β}

theorem follows_quiet {r : Except Stop α} (hx : ∀ s, x.Gives s r s)
    (hr : ∀ err, r ≠ .error (.failed (.store err))) : Follows T before g x := by
  refine asks_of_quiet hx (course_ended ?_)
  intro err h
  cases r with
  | ok a => cases h
  | error e => exact hr err (by cases h; rfl)

theorem follows_pure (a : α) : Follows (σ := σ) T before g (pure a) :=
  follows_quiet (gives_pure a) (by simp)

theorem follows_fail {f : Failure} (hf : ∀ err, f ≠ .store err) :
    Follows (σ := σ) T before g (fail f : Action _ α) :=
  follows_quiet (gives_fail f) (by simpa using hf)

theorem Follows.measured (h : Follows T before g x) (name : Name) (labels : Option Labels) :
    Follows T before g (Action.measured name x labels) :=
  Asks.measured h name labels

theorem Follows.map {f : α → Answer} (h : Follows T before f x) :
    Follows T before id (x >>= fun a => pure (f a)) := by
  refine Asks.bind h ?_ ?_
  · intro a es h
    refine asks_of_quiet (gives_pure _) ?_
    rw [List.append_nil]
    exact h
  · intro e es h
    exact h

theorem follows_fail_bind {f : Failure} (hf : ∀ err, f ≠ .store err) :
    Follows T before g' (fail f >>= k) :=
  follows_quiet (fun s => (gives_fail f s).bind_error) (by simpa using hf)

/-- After a request that is not about an object that has to be there. -/
theorem follows_request {q : Request} {value : q.Reply → α}
    (hx : x.Asking q (fun a => .ok (value a)) fun f => .error (.store f.error))
    (hseeks : q.seeks = false) (hdescribes : q.describes = false)
    (hk : ∀ a, Follows T (before ++ [⟨q, .ok a⟩]) g' (k (value a))) :
    Follows T before g' (x >>= k) := by
  refine Asks.bind hx ?_ ?_
  · rintro a _ ⟨f | reply, rfl, h⟩
    · cases h
    · cases h
      refine (hk reply).mono ?_
      intro r later h
      exact .passed rfl (Request.stream?_of_not_seeks hseeks _) h
  · rintro e _ ⟨f | reply, rfl, h⟩
    · cases h
      exact course_refused (.inl ⟨hseeks, hdescribes⟩)
    · cases h

theorem follows_log {l : Logger} {level : Level} {fields : Fields} {message : String}
    {k : Unit → Action (Link (Transcript σ)) β} (hk : Follows T before g' (k ())) :
    Follows T before g' (log l level fields message >>= k) := by
  refine Asks.bind (asks_of_quiet (R := fun r es => r = .ok () ∧ es = [])
    (gives_log l level fields message) ⟨rfl, rfl⟩) ?_ ?_
  · rintro a _ ⟨_, rfl⟩
    exact hk
  · rintro e es ⟨h, _⟩
    cases h

theorem follows_properties {key : Name}
    {k : Option Properties → Action (Link (Transcript σ)) β}
    (hsome : ∀ d, Follows T (before ++ [⟨.describe key, .ok d⟩]) g' (k (some (propertiesOf d))))
    (hnone : ∀ f : Fault, f.Absent → (k none).Asks fun r later =>
      T.continues ⟨.describe key, .error f⟩ (r.map g') later ∧
        Course T (before ++ [⟨.describe key, .error f⟩]) (r.map g') later) :
    Follows T before g' (properties? (backend client.transcribed) key >>= k) := by
  refine Asks.bind (properties_asking key) ?_ ?_
  · rintro p _ ⟨f | d, rfl, h⟩
    · by_cases hf : f.Absent
      · obtain ⟨message, rfl⟩ := hf
        cases h
        refine (hnone _ ⟨message, rfl⟩).mono ?_
        rintro r later ⟨hcontinues, h⟩
        exact .undescribed ⟨rfl, _, rfl, message, rfl⟩ hcontinues h
      · simp only [undescribed_of_not_absent hf] at h
        cases h
    · cases h
      refine (hsome d).mono ?_
      intro r later h
      exact .passed rfl rfl h
  · rintro e _ ⟨f | d, rfl, h⟩
    · by_cases hf : f.Absent
      · obtain ⟨message, rfl⟩ := hf
        cases h
      · simp only [undescribed_of_not_absent hf] at h
        cases h
        exact course_refused (.inr hf)
    · cases h

theorem follows_delete {path key : Name} {k : Unit → Action (Link (Transcript σ)) β}
    (hpath : ∀ f, T.concerned before ⟨.delete key, .error f⟩ path)
    (hk : Follows T (before ++ [⟨.delete key, .ok ()⟩]) g' (k ())) :
    Follows T before g' (callAt (backend client.transcribed) path (.delete key) >>= k) := by
  refine Asks.bind (callAt_asking path (send_sends client (.delete key) (Fault.about key))) ?_ ?_
  · rintro a _ ⟨f | reply, rfl, h⟩
    · cases h
    · refine hk.mono ?_
      intro r later h
      exact .passed rfl rfl h
  · rintro e _ ⟨f | reply, rfl, h⟩
    · cases h
      exact course_sought rfl (hpath f) key
    · cases h

end Rules

section Steady

variable {x : Action (Link (Transcript σ)) α} {k : α → Action (Link (Transcript σ)) β}

theorem Follows.seq (hT : T.Steady) (hx : Follows T before g x)
    (hk : ∀ a before, Follows T before g' (k a)) : Follows T before g' (x >>= k) := by
  refine Asks.bind hx ?_ ?_
  · intro a es h
    refine (hk a (before ++ es)).mono ?_
    intro r later hlater
    exact h.passes hT (fun _ h => by cases h) hlater
  · intro e es h
    exact h

/-- What follows an action also if it fails, but passes on what the store says. -/
theorem Follows.recover {k : Except Failure α → Action (Link (Transcript σ)) β} (hT : T.Steady)
    (hx : Follows T before g x) (hok : ∀ a before, Follows T before g' (k (.ok a)))
    (hfailed : ∀ f, (∀ err, f ≠ .store err) → ∀ before, Follows T before g' (k (.error f)))
    (hstore : ∀ err, k (.error (.store err)) = fail (.store err)) :
    Follows T before g' (attempt x >>= k) := by
  refine Asks.recover hx ?_ ?_ ?_
  · intro a es h
    refine (hok a (before ++ es)).mono ?_
    intro r later hlater
    exact h.passes hT (fun _ h => by cases h) hlater
  · intro f es h
    by_cases hf : ∃ err, f = .store err
    · obtain ⟨err, rfl⟩ := hf
      rw [hstore]
      refine asks_of_quiet (gives_fail _) ?_
      rw [List.append_nil]
      exact h
    · have hf : ∀ err, f ≠ .store err := fun err heq => hf ⟨err, heq⟩
      refine (hfailed f hf (before ++ es)).mono ?_
      intro r later hlater
      exact h.passes hT (by simpa [Except.map] using hf) hlater
  · intro es h
    exact h

theorem follows_forM (hT : T.Steady) {f : α → Action (Link (Transcript σ)) Unit}
    {g : Unit → Answer} (hf : ∀ a before, Follows T before g (f a)) (xs : List α) :
    ∀ before, Follows T before g (xs.forM f) := by
  induction xs with
  | nil =>
    intro before
    exact follows_pure ()
  | cons a xs ih =>
    intro before
    exact (hf a before).seq hT fun _ before => ih before

end Steady
end Cloud
end BlobTree
