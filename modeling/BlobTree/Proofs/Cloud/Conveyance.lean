import BlobTree.Cloud.Script
import BlobTree.Proofs.Cloud.Operations

/-!
# BlobTree.Proofs.Cloud.Conveyance

What becomes of every reply of the service. The service may answer each request as it likes. That
there is no object is told as the path concerned, or the operation goes on without the object;
every other fault, and a stream that breaks off, reaches the caller as it is.

* `Fate`, `Conveyed`: of one reply, and of all that an operation has been told;
  `Course.conveyed`: by induction on the exchanges, from the front.
* `walk_follows`: a walk, by induction on its depth, with a visitor of any kind.
* `faults_conveyed`: every operation, every walk and every cancelled session.
-/

namespace BlobTree
namespace Cloud

open BlobTree.Action BlobTree.FileTree

/-- What a reply leads to, given what was exchanged before and after it and how it all ended. -/
structure Fate (T : Terms) (before : List Exchanged) (e : Exchanged) (after : List Exchanged)
    (r : Except Stop Answer) : Prop where
  unchanged : ∀ f, e.fault? = some f → ¬e.Missing → ¬e.Undescribed →
    after = [] ∧ r = .error (.failed (.store f.error))
  missing : e.Missing →
    after = [] ∧ ∃ path, T.concerned before e path ∧ r = .error (.failed (.pathNotFound path))
  undescribed : e.Undescribed → T.continues e r after
  streamed : ∀ s, e.stream? = some s → after = [] ∧ T.streamed s r

/-- An exchange that says this failure of the store. -/
def Exchanged.Tells (e : Exchanged) (err : StoreError) : Prop :=
  (∃ f, e.fault? = some f ∧ ¬e.Missing ∧ ¬e.Undescribed ∧ err = f.error) ∨
    (∃ s, e.stream? = some s ∧ s.error? = some err) ∨
    ∃ key, e.Bodiless key ∧ err = .noContent key

structure Conveyed (T : Terms) (r : Except Stop Answer) (es : List Exchanged) : Prop where
  fates : ∀ before e after, es = before ++ e :: after → Fate T before e after r
  /-- A failure of the store comes from the last reply. -/
  told : ∀ err, r = .error (.failed (.store err)) →
    T.own err ∨ ∃ e, es.getLast? = some e ∧ e.Tells err

variable {T : Terms} {before es : List Exchanged} {r : Except Stop Answer}

theorem fates_cons {e : Exchanged} {after : List Exchanged} (hhead : Fate T before e after r)
    (htail : ∀ front e' after', after = front ++ e' :: after' →
      Fate T (before ++ [e] ++ front) e' after' r) :
    ∀ front e' after', e :: after = front ++ e' :: after' →
      Fate T (before ++ front) e' after' r := by
  intro front e' after' h
  cases front with
  | nil =>
    cases h
    rwa [List.append_nil]
  | cons x front =>
    cases h
    simpa using htail front e' after' rfl

theorem fates_single {e : Exchanged} (h : Fate T before e [] r) :
    ∀ front e' after', [e] = front ++ e' :: after' → Fate T (before ++ front) e' after' r :=
  fates_cons h (by simp)

section Fates

variable {e : Exchanged} {after : List Exchanged}

theorem Fate.of_ok (hfault : e.fault? = none)
    (hstreamed : ∀ s, e.stream? = some s → after = [] ∧ T.streamed s r) :
    Fate T before e after r := by
  have hpresent : ¬e.Absent := by
    rintro ⟨f, hf, _⟩
    rw [hfault] at hf
    cases hf
  refine ⟨?_, ?_, ?_, hstreamed⟩
  · intro f hf
    rw [hfault] at hf
    cases hf
  · intro h
    exact absurd h.2 hpresent
  · intro h
    exact absurd h.2 hpresent

theorem Fate.of_fault {f : Fault} (hfault : e.fault? = some f)
    (hunchanged : ¬e.Missing → ¬e.Undescribed →
      after = [] ∧ r = .error (.failed (.store f.error)))
    (hmissing : e.Missing →
      after = [] ∧ ∃ path, T.concerned before e path ∧ r = .error (.failed (.pathNotFound path)))
    (hundescribed : e.Undescribed → T.continues e r after) : Fate T before e after r := by
  refine ⟨?_, hmissing, hundescribed, ?_⟩
  · intro f' hf'
    obtain rfl : f = f' := Option.some.inj (hfault.symm.trans hf')
    exact hunchanged
  · intro s hs
    rw [Exchanged.stream?_of_fault hfault] at hs
    cases hs

end Fates

theorem Course.fates (h : Course T before r es) :
    ∀ front e after, es = front ++ e :: after → Fate T (before ++ front) e after r := by
  induction h with
  | ended => simp
  | passed hfault hstream _ ih =>
    refine fates_cons (.of_ok hfault ?_) ih
    intro s hs
    rw [hstream] at hs
    cases hs
  | undescribed h hcontinues _ ih =>
    obtain ⟨f, hfault, _⟩ := h.2
    refine fates_cons (.of_fault hfault ?_ ?_ ?_) ih
    · intro _ hnot
      exact absurd h hnot
    · intro hmissing
      exact absurd h hmissing.not_undescribed
    · intro _
      exact hcontinues
  | refused hfault hmissing hundescribed =>
    refine fates_single (.of_fault hfault ?_ ?_ ?_)
    · intro _ _
      exact ⟨rfl, rfl⟩
    · intro h
      exact absurd h hmissing
    · intro h
      exact absurd h hundescribed
  | missing h hpath =>
    obtain ⟨f, hfault, _⟩ := h.2
    refine fates_single (.of_fault hfault ?_ ?_ ?_)
    · intro hnot
      exact absurd h hnot
    · intro _
      exact ⟨rfl, _, hpath, rfl⟩
    · intro hundescribed
      exact absurd hundescribed h.not_undescribed
  | streamed hstream hr =>
    refine fates_single (.of_ok (Exchanged.fault?_of_stream hstream) ?_)
    intro s hs
    rw [hstream] at hs
    cases hs
    exact ⟨rfl, hr⟩
  | bodiless h =>
    obtain ⟨offset, rfl⟩ := h
    refine fates_single (.of_ok rfl ?_)
    rintro s ⟨⟩

theorem Course.told (h : Course T before r es) :
    ∀ err, r = .error (.failed (.store err)) →
      T.own err ∨ ∃ e, es.getLast? = some e ∧ e.Tells err := by
  induction h with
  | ended h =>
    intro err hr
    exact .inl (h err hr)
  | @passed _ after e _ _ _ _ ih | @undescribed _ after e _ _ _ _ ih =>
    intro err hr
    rcases ih err hr with hown | ⟨last, hlast, htells⟩
    · exact .inl hown
    · refine .inr ⟨last, ?_, htells⟩
      rw [List.getLast?_cons, hlast]
      rfl
  | @refused _ e f hfault hmissing hundescribed =>
    rintro err ⟨⟩
    exact .inr ⟨e, rfl, .inl ⟨f, hfault, hmissing, hundescribed, rfl⟩⟩
  | missing => rintro err ⟨⟩
  | @streamed _ e s _ hstream _ hbroken =>
    intro err hr
    exact .inr ⟨e, rfl, .inr (.inl ⟨s, hstream, hbroken err hr⟩)⟩
  | @bodiless _ e key h =>
    rintro err ⟨⟩
    exact .inr ⟨e, rfl, .inr (.inr ⟨key, h, rfl⟩)⟩

theorem Course.conveyed (h : Course T [] r es) : Conveyed T r es :=
  ⟨fun before e after hes => by simpa using h.fates before e after hes, h.told⟩

section Walks

variable {σ α : Type} (t : FileTree)

/-- An action on the state of the client's own that nothing is recorded of. -/
def offRecord (x : Action σ α) : Action (Link (Transcript σ)) α :=
  .of fun w =>
    let (r, v) := x.exec { w with store := w.store.client.client }
    (r, { v with store := { w.store with client := { w.store.client with client := v.store } } })

/-- A walk looks at one child after another; one that is not there may be a directory. What the
visitor raises is not the store's. -/
def walkTerms (visit : Entry → Action σ Visit) : Terms where
  continues e _ after := ∃ child next rest, e.request = .describe (t.root.keyOf child) ∧
    after = next :: rest ∧ next.request = Look t child
  own err := ∃ entry w, ((visit entry).exec w).1 = .error (.failed (.store err))

theorem walkTerms_steady (visit : Entry → Action σ Visit) : (walkTerms t visit).Steady where
  concerned _ _ _ h := h
  streamed _ _ h := h
  continues := by
    rintro e r r' _ later ⟨child, next, rest, he, rfl, hnext⟩
    exact ⟨child, next, rest ++ later, he, rfl, hnext⟩

variable {client : Client σ} {visit : Entry → Action σ Visit}

theorem follows_visit (entry : Entry) (before : List Exchanged) (g : Visit → Answer) :
    Follows (walkTerms t visit) before g (offRecord (visit entry)) := by
  intro w hw
  refine ⟨_, _, [], rfl, (List.append_nil _).symm, hw, .ended ?_⟩
  intro err h
  refine ⟨entry, { w with store := w.store.client.client }, ?_⟩
  replace h : ((visit entry).exec { w with store := w.store.client.client }).1.map g =
    .error (.failed (.store err)) := h
  cases hr : ((visit entry).exec { w with store := w.store.client.client }).1 with
  | ok a =>
    rw [hr] at h
    cases h
  | error e =>
    rw [hr] at h
    cases h
    rfl

/-- A walk keeps to its terms, by induction on how far down it may go. -/
theorem follows_visitBelow (logger : Option Logger) (depth : Nat) :
    ∀ dir before, Follows (walkTerms t visit) before (fun _ => .done)
      (Walk.visitBelow ⟨t.list (backend client.transcribed), t.stat (backend client.transcribed)⟩
        (fun e => offRecord (visit e)) logger depth dir) := by
  have hT := walkTerms_steady t visit
  induction depth with
  | zero =>
    intro dir before
    exact follows_quiet gives_unfinished (by simp)
  | succ depth ih =>
    intro dir before
    refine (list_follows client t dir).seq hT ?_
    intro children before
    refine follows_forM hT ?_ _ before
    intro child before
    have hstat : Follows (walkTerms t visit) before .entry
        (t.stat (backend client.transcribed) child) := by
      refine stat_follows client t child ?_
      intro f e r _ he
      exact ⟨child, e, [], rfl, rfl, he⟩
    refine hstat.recover hT ?_ ?_ ?_
    · intro entry before
      refine (follows_visit t entry before fun _ => .done).seq hT ?_
      intro decision before
      split
      · exact ih child before
      · exact follows_pure ()
    · intro f hf before
      cases f with
      | pathNotFound path =>
        cases logger with
        | none => exact follows_pure ()
        | some l => exact follows_quiet (gives_log _ _ _ _) (by simp)
      | store err => exact absurd rfl (hf err)
      | _ => exact follows_fail (by simp)
    · intro err
      rfl

theorem walk_follows (path : Name) :
    Follows (walkTerms t visit) [] (fun _ => .done)
      (t.walk (backend client.transcribed) path fun e => offRecord (visit e)) :=
  follows_onDirectory (follows_visitBelow t _ _ path [])

end Walks

def cancelTerms (w : Writer) : Terms where
  concerned _ _ path := path = w.path

variable {σ : Type}

/-- The world has been told these exchanges. -/
def Adds (world world' : World (Link (Transcript σ))) (es : List Exchanged) : Prop :=
  world'.store.client.exchanges = world.store.client.exchanges ++ es

theorem cancel_course (client : Client σ) (w : Writer) (world : World (Link (Transcript σ)))
    (hworld : world.store.connected) :
    ∃ es, Adds world (w.cancel (backend client.transcribed) world).2.2 es ∧
      Course (cancelTerms w) []
        (((w.cancel (backend client.transcribed) world).1.mapError .failed).map fun _ => .done) es ∧
      (w.state = .open → ∃ reply, es = [⟨.delete w.key, reply⟩]) := by
  by_cases hopen : w.state ∈ Writer.Operation.cancel.allowed
  · obtain ⟨r, t, es, hrun, hes, reply, rfl, hr⟩ :=
      send_sends client (.delete w.key) (Fault.about w.key) world.store.client
    have hanswer : (backend client.transcribed).answer world.store (.delete w.key) =
        (r, { world.store with client := t }) := by
      simp only [backend, hworld, if_true, exchange, hrun]
    rw [Writer.cancel, Writer.allowing_legal hopen]
    simp only [Writer.note_store, hanswer]
    refine ⟨_, hes, ?_, fun _ => ⟨reply, rfl⟩⟩
    subst hr
    cases reply with
    | error f => exact course_sought rfl rfl w.key
    | ok => exact .passed rfl rfl (course_ended (by simp [Except.map]))
  · rw [Writer.cancel, Writer.allowing_refused hopen]
    refine ⟨[], (List.append_nil _).symm, course_ended ?_, ?_⟩
    · intro err h
      cases h
    · intro h
      simp [Writer.Operation.allowed, h] at hopen

/-- The service may answer every request as it likes. A refusal with status 404 of a request that
needs an object is told as the path concerned, and without an object to describe the operation goes
on or does not find its path; every other fault, and a downloaded stream, reaches the caller as it
is. So it is for every operation, for every walk whatever its visitor does, and for every session
that is cancelled. -/
theorem faults_conveyed (client : Client σ) (t : FileTree) :
    (∀ q, (t.carryOut (backend client.transcribed) q).Asks (Conveyed (terms t q))) ∧
    (∀ path (visit : Entry → Action σ Visit),
      (t.walk (backend client.transcribed) path fun e => offRecord (visit e)).Asks fun r es =>
        Conveyed (walkTerms t visit) (r.map fun _ => .done) es) ∧
    ∀ (w : Writer) (world : World (Link (Transcript σ))), world.store.connected →
      ∃ es, Adds world (w.cancel (backend client.transcribed) world).2.2 es ∧
        Conveyed (cancelTerms w)
          (((w.cancel (backend client.transcribed) world).1.mapError .failed).map fun _ => .done)
          es ∧
        (w.state = .open → ∃ reply, es = [⟨.delete w.key, reply⟩]) := by
  refine ⟨?_, ?_, ?_⟩
  · intro q
    refine (carryOut_follows client t q).mono ?_
    intro r es h
    have hr : r.map id = r := by cases r <;> rfl
    rw [hr] at h
    exact h.conveyed
  · intro path visit
    exact (walk_follows t path).mono fun r es h => h.conveyed
  · intro w world hworld
    obtain ⟨es, hes, h, hopen⟩ := cancel_course client w world hworld
    exact ⟨es, hes, h.conveyed, hopen⟩

/-- The second of two files below a directory has gone when its turn comes: it is the one that the
delete does not find. -/
theorem faults_conveyed_delete :
    let t : FileTree := { (default : FileTree) with pageBudget := 1 }
    let files := ["d/a".toList, "d/b".toList]
    let script : Script :=
      { responses := [{}, { names := some files }, {}, { fault := some (.rest 404 "gone") }] }
    let b := backend (Script.client []).transcribed
    let ran := (t.carryOut b (.delete "/d".toList)).exec (.fresh ⟨⟨script, []⟩, true⟩)
    Conveyed (terms t (.delete "/d".toList)) ran.1 ran.2.store.client.exchanges ∧
      ran.1 = .error (.failed (.pathNotFound "/d/b".toList)) := by
  intro t files script b ran
  obtain ⟨r, w', es, hrun, hes, -, h⟩ := (faults_conveyed (Script.client []) t).1
    (.delete "/d".toList) (.fresh ⟨⟨script, []⟩, true⟩) rfl
  have hran : ran = (r, w') := hrun
  have hexchanges : ran.2.store.client.exchanges = [⟨.deleteIfExists "d".toList, .ok false⟩,
      ⟨.list (some "d/".toList) none none, .ok (some ⟨files, none⟩)⟩,
      ⟨.delete "d/a".toList, .ok ()⟩, ⟨.delete "d/b".toList, .error (.rest 404 "gone")⟩] := rfl
  rw [hran] at hexchanges ⊢
  obtain rfl : es = _ := hes.symm.trans hexchanges
  refine ⟨hexchanges ▸ h, ?_⟩
  obtain ⟨-, path, ⟨hpath, -⟩, hr⟩ :=
    (h.fates [_, _, _] _ [] rfl).missing ⟨rfl, _, rfl, "gone", rfl⟩
  obtain rfl : "/d/b".toList = path := Option.some.inj (Eq.trans rfl hpath)
  exact hr

end Cloud
end BlobTree
