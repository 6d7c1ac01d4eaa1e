import BlobTree.Proofs.Execution
import BlobTree.Store.Traced

/-!
# BlobTree.Proofs.Logged

What an action does on a store that keeps a record: how it ends, what it has added to the record by
then, and the store after it. There is one rule for each combinator; in a sequence the records of
the second part come after those of the first.

* `Leads`: with any record; `Logs`: with the record of the calls on a traced store.
* `logs_of_gives`: from what the action gives; `logs_of_quiet`, `logs_call`: no call, and one.
* `Leads.bind`, `Leads.recover`, `Leads.measured`: after an action and around it, and the same for
  `Logs`.
-/

namespace BlobTree
namespace Action

variable {τ ε σ α β : Type}

/-- From a world, an action ends with a result, with something added to what the store keeps, and
with a store such that `R`. -/
def Leads (kept : τ → List ε) (x : Action τ α) (w : World τ)
    (R : Except Stop α → List ε → τ → Prop) : Prop :=
  ∃ r w' added, x.exec w = (r, w') ∧ kept w'.store = kept w.store ++ added ∧ R r added w'.store

section Leads

variable {kept : τ → List ε} {x : Action τ α} {w : World τ}
  {R R' : Except Stop α → List ε → τ → Prop} {S : Except Stop β → List ε → τ → Prop}

theorem Leads.mono (h : x.Leads kept w R) (hR : ∀ r added s, R r added s → R' r added s) :
    x.Leads kept w R' := by
  obtain ⟨r, w', added, hx, hadded, hr⟩ := h
  exact ⟨r, w', added, hx, hadded, hR r added _ hr⟩

theorem leads_of_gives {r : Except Stop α} {s : τ} {added : List ε} (hx : x.Gives w.store r s)
    (hadded : kept s = kept w.store ++ added) (h : R r added s) : x.Leads kept w R := by
  obtain ⟨w', hrun, rfl⟩ := hx w rfl
  exact ⟨r, w', added, hrun, hadded, h⟩

theorem Leads.bind {f : α → Action τ β} (hx : x.Leads kept w R)
    (hok : ∀ a w' added, R (.ok a) added w'.store →
      (f a).Leads kept w' fun r later s => S r (added ++ later) s)
    (herror : ∀ e added s, R (.error e) added s → S (.error e) added s) :
    (x >>= f).Leads kept w S := by
  obtain ⟨e | a, w', added, hrun, hadded, hr⟩ := hx
  · exact ⟨.error e, w', added, exec_bind_error hrun, hadded, herror e added _ hr⟩
  · obtain ⟨r, w'', later, hrest, hlater, hS⟩ := hok a w' added hr
    refine ⟨r, w'', added ++ later, (exec_bind_ok hrun).trans hrest, ?_, hS⟩
    rw [hlater, hadded, List.append_assoc]

/-- What follows an action also if it fails. -/
theorem Leads.recover {f : Except Failure α → Action τ β} (hx : x.Leads kept w R)
    (hok : ∀ a w' added, R (.ok a) added w'.store →
      (f (.ok a)).Leads kept w' fun r later s => S r (added ++ later) s)
    (hfailed : ∀ e w' added, R (.error (.failed e)) added w'.store →
      (f (.error e)).Leads kept w' fun r later s => S r (added ++ later) s)
    (hunfinished : ∀ added s, R (.error .unfinished) added s → S (.error .unfinished) added s) :
    (attempt x >>= f).Leads kept w S := by
  obtain ⟨(e | _) | a, w', added, hrun, hadded, hr⟩ := hx
  · obtain ⟨r, w'', later, hrest, hlater, hS⟩ := hfailed e w' added hr
    refine ⟨r, w'', added ++ later, (exec_attempt_bind_failed hrun).trans hrest, ?_, hS⟩
    rw [hlater, hadded, List.append_assoc]
  · exact ⟨.error .unfinished, w', added, exec_attempt_bind_unfinished hrun, hadded,
      hunfinished added _ hr⟩
  · obtain ⟨r, w'', later, hrest, hlater, hS⟩ := hok a w' added hr
    refine ⟨r, w'', added ++ later, (exec_attempt_bind_ok hrun).trans hrest, ?_, hS⟩
    rw [hlater, hadded, List.append_assoc]

theorem Leads.measured (hx : x.Leads kept w R) (name : Name) (labels : Option Labels) :
    (measured name x labels).Leads kept w R := by
  obtain ⟨r, w', added, hrun, hadded, hr⟩ := hx
  obtain ⟨hend, hstore⟩ := exec_measured_eq name x labels w
  rw [hrun] at hend hstore
  refine ⟨r, ((Action.measured name x labels).exec w).2, added, Prod.ext hend rfl, ?_, ?_⟩
  · rw [hstore, hadded]
  · rwa [hstore]

end Leads

/-- From a world, an action ends with a result, some calls and a store such that `R`. -/
def Logs (x : Action (Traced σ) α) (w : World (Traced σ))
    (R : Except Stop α → List (Event σ) → σ → Prop) : Prop :=
  x.Leads Traced.events w fun r events t => R r events t.store

variable {b : Backend σ} {x : Action (Traced σ) α} {w : World (Traced σ)}
  {R R' : Except Stop α → List (Event σ) → σ → Prop} {S : Except Stop β → List (Event σ) → σ → Prop}

theorem Logs.mono (h : x.Logs w R) (hR : ∀ r events s, R r events s → R' r events s) :
    x.Logs w R' :=
  Leads.mono h fun r events t => hR r events t.store

theorem logs_of_gives {r : Except Stop α} {s : Traced σ} {events : List (Event σ)}
    (hx : x.Gives w.store r s) (hevents : s.events = w.store.events ++ events)
    (h : R r events s.store) : x.Logs w R :=
  leads_of_gives hx hevents h

theorem logs_of_quiet {r : Except Stop α} (hx : x.Gives w.store r w.store)
    (h : R r [] w.store.store) : x.Logs w R :=
  logs_of_gives hx (List.append_nil _).symm h

theorem logs_of_one {c : Call} {r : Except Stop α}
    (hx : x.Gives w.store r (b.traced.answer w.store c).2)
    (h : R r [⟨w.store.store, c, (b.answer w.store.store c).1⟩] (b.answer w.store.store c).2) :
    x.Logs w R :=
  logs_of_gives hx rfl h

theorem logs_call {c : Call} {R : Except Stop c.Reply → List (Event σ) → σ → Prop}
    (h : R ((b.answer w.store.store c).1.mapError fun e => .failed (.store e))
      [⟨w.store.store, c, (b.answer w.store.store c).1⟩] (b.answer w.store.store c).2) :
    (call b.traced c).Logs w R :=
  logs_of_one (gives_call b.traced c w.store) h

theorem Logs.bind {f : α → Action (Traced σ) β} (hx : x.Logs w R)
    (hok : ∀ a w' events, R (.ok a) events w'.store.store →
      (f a).Logs w' fun r later s => S r (events ++ later) s)
    (herror : ∀ e events s, R (.error e) events s → S (.error e) events s) :
    (x >>= f).Logs w S :=
  Leads.bind hx hok fun e events t => herror e events t.store

/-- What follows an action also if it fails. -/
theorem Logs.recover {f : Except Failure α → Action (Traced σ) β} (hx : x.Logs w R)
    (hok : ∀ a w' events, R (.ok a) events w'.store.store →
      (f (.ok a)).Logs w' fun r later s => S r (events ++ later) s)
    (hfailed : ∀ e w' events, R (.error (.failed e)) events w'.store.store →
      (f (.error e)).Logs w' fun r later s => S r (events ++ later) s)
    (hunfinished : ∀ events s, R (.error .unfinished) events s → S (.error .unfinished) events s) :
    (attempt x >>= f).Logs w S :=
  Leads.recover hx hok hfailed fun events t => hunfinished events t.store

theorem Logs.measured (hx : x.Logs w R) (name : Name) (labels : Option Labels) :
    (measured name x labels).Logs w R :=
  Leads.measured hx name labels

end Action
end BlobTree
