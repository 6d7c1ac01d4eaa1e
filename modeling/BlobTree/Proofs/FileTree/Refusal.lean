import Mathlib.Control.Monad.Basic
import BlobTree.Proofs.FileTree.Within
import BlobTree.Proofs.Writer.Refusal
import BlobTree.Store.Refusing

/-!
# BlobTree.Proofs.FileTree.Refusal

A refusal of the store on its way through an operation of a tree. Whatever the store is and however
it answers, a call that it refuses for another reason than that there is no object is the last one
that the operation makes, and the operation fails with what the store said.

* `PassesOn.bind`, `PassesOn.recover`: in sequence, and where a failure is looked at first.
* `Within.passesOn`: every action that is made of calls and failures.
* `refusals_passedOn`: the operations of a tree, its walks and the calls on its sessions.
-/

namespace BlobTree
namespace Action

variable {σ α β : Type}

/-- A refused call is the last one that an action makes, and its failure is that of the action. -/
def PassesOn (x : Action (Traced σ) α) : Prop :=
  ∀ w, PassedOn w.store (x.exec w).2.store fun e => (x.exec w).1 = .error (.failed (.store e))

/-- An action on the store below, whose calls are not traced. -/
def untraced (x : Action σ α) : Action (Traced σ) α :=
  of fun w =>
    let (r, w') := x.exec { w with store := w.store.store }
    (r, { w' with store := { w.store with store := w'.store } })

variable {x : Action (Traced σ) α}

theorem passesOn_untraced (x : Action σ α) : (untraced x).PassesOn := fun w =>
  ⟨[], by simp [untraced], fun before e after err h => by simp at h⟩

theorem passesOn_of_quiet (h : ∀ w, (x.exec w).2.store = w.store) : x.PassesOn := by
  intro w
  rw [h w]
  exact .refl _ _

theorem passesOn_of_one {b : Backend σ} {c : Call}
    (ending : Except StoreError c.Reply → Except Stop α)
    (hx : ∀ s, x.Gives s (ending (b.traced.answer s c).1) (b.traced.answer s c).2)
    (hending : ∀ e, (∀ key, e ≠ .notFound key) → ending (.error e) = .error (.failed (.store e))) :
    x.PassesOn := by
  intro w
  obtain ⟨hend, hstore⟩ := (hx w.store).exec
  rw [hend, hstore]
  exact (PassedOn.call b w.store c).mono fun e hfound he => by rw [he, hending e hfound]

theorem PassesOn.bind {f : α → Action (Traced σ) β} (hx : x.PassesOn)
    (hf : ∀ w a w', x.exec w = (.ok a, w') → (f a).PassesOn) : (x >>= f).PassesOn := by
  intro w
  have hfirst := hx w
  rcases hrun : x.exec w with ⟨e | a, w'⟩
  · rw [hrun] at hfirst
    rw [exec_bind_error hrun]
    exact hfirst.mono fun _ _ heq => by rw [Except.error.inj heq]
  · rw [hrun] at hfirst
    rw [exec_bind_ok hrun]
    exact hfirst.trans (fun _ heq => by cases heq) (hf w a w' hrun w')

theorem PassesOn.measured (hx : x.PassesOn) (name : Name) (labels : Option Labels) :
    (measured name x labels).PassesOn := by
  intro w
  obtain ⟨hend, hstore⟩ := exec_measured_eq name x labels w
  rw [hend, hstore]
  exact hx w

/-- An action that may be followed by more even if it fails, unless the failure is the store's. -/
theorem PassesOn.recover {f : Except Failure α → Action (Traced σ) β} (hx : x.PassesOn)
    (hok : ∀ w a w', x.exec w = (.ok a, w') → (f (.ok a)).PassesOn)
    (hpath : ∀ p, (f (.error (.pathNotFound p))).PassesOn)
    (hfail : ∀ e, (∀ p, e ≠ .pathNotFound p) → f (.error e) = fail e) :
    (attempt x >>= f).PassesOn := by
  intro w
  have hfirst := hx w
  rcases hrun : x.exec w with ⟨(e | _) | a, w'⟩
  · rw [hrun] at hfirst
    rw [exec_attempt_bind_failed hrun]
    rcases e.pathNotFound_or with ⟨p, rfl⟩ | hother
    · exact hfirst.trans (fun _ heq => by cases heq) (hpath p w')
    · rw [hfail e hother, exec_fail]
      exact hfirst.mono fun _ _ heq => by rw [Except.error.inj heq]
  · rw [hrun] at hfirst
    rw [exec_attempt_bind_unfinished hrun]
    exact hfirst.mono fun _ _ heq => by cases heq
  · rw [hrun] at hfirst
    rw [exec_attempt_bind_ok hrun]
    exact hfirst.trans (fun _ heq => by cases heq) (hok w a w' hrun w')

end Action

namespace FileTree

open BlobTree.Action

variable {σ α : Type} {b : Backend σ} {t : FileTree} {path : Name}

theorem passesOn_callAt (path : Name) (c : Call) : (callAt b.traced path c).PassesOn := by
  refine passesOn_of_one (b := b) _ (callAt_gives b.traced path c) fun e hfound => ?_
  cases e with
  | notFound key => exact absurd rfl (hfound key)
  | _ => rfl

theorem passesOn_properties (key : Name) : (properties? b.traced key).PassesOn := by
  refine passesOn_of_one (b := b) _ (properties_gives b.traced key) fun e hfound => ?_
  cases e with
  | notFound key => exact absurd rfl (hfound key)
  | _ => rfl

theorem passesOn_call (c : Call) : (call b.traced c).PassesOn :=
  passesOn_of_one (b := b) _ (gives_call b.traced c) fun _ _ => rfl

/-- Every action that is made of calls and failures passes a refusal on, if the functions that are
handed to its walks do. -/
theorem Within.passesOn {S : Scope (Traced σ)} (hS : S.Fits b.traced)
    (hvisits : ∀ x, S.visits x → x.PassesOn) {x : Action (Traced σ) α} {Q : α → Prop}
    (hx : Within b.traced S x Q) : x.PassesOn := by
  induction hx with
  | pure | fail | unfinished | log => exact passesOn_of_quiet fun _ => rfl
  | plain | page => exact passesOn_call _
  | seek => exact passesOn_callAt _ _
  | properties => exact passesOn_properties _
  | visit h => exact hvisits _ h
  | bind hx _ ihx ihf => exact ihx.bind fun _ a _ hrun => ihf a (hx.yields hS hrun)
  | measured name labels _ ih => exact ih.measured name labels
  | recover hx _ _ hfail ihx ihok ihpath =>
    exact ihx.recover (fun _ a _ hrun => ihok a (hx.yields hS hrun)) ihpath hfail

def anything : Scope (Traced σ) where
  near _ := True
  starts _ := True
  holds _ _ := True
  raises _ := True
  stops := True
  visits := PassesOn

theorem anything_admits (t : FileTree) : (anything : Scope (Traced σ)).Admits t where
  raises _ := trivial
  stops := trivial
  key _ _ := trivial
  start _ _ := trivial
  listed _ _ _ _ := trivial

theorem passesOn_of_within {x : Action (Traced σ) α} {Q : α → Prop}
    (hx : Within b.traced anything x Q) : x.PassesOn :=
  hx.passesOn (fun _ _ _ _ _ _ _ => trivial) fun _ h => h

/-- **Failures of the store.** In every operation, in every walk and in every call on a session,
over every store: a call that is refused, for want of an object apart, is the last one that is
made, and the failure is the store's own. The calls of a function that is handed to a walk count if
the function passes refusals on itself; one that does not is taken with its calls left aside. -/
theorem refusals_passedOn (t : FileTree) (b : Backend σ) :
    (∀ q, (t.carryOut b.traced q).PassesOn) ∧
    (∀ path (visit : Entry → Action σ Visit),
      (t.walk b.traced path fun e => untraced (visit e)).PassesOn) ∧
    (∀ path (visit : Entry → Action (Traced σ) Visit), (∀ e, (visit e).PassesOn) →
      (t.walk b.traced path visit).PassesOn) ∧
    (∀ q (w : Writer) (world : World (Traced σ)),
      PassedOn world.store (w.perform b.traced q world).2.2.store fun e =>
        (w.perform b.traced q world).1 = .error (.store e)) := by
  have hadmits := anything_admits (σ := σ) t
  refine ⟨fun q => ?_, fun path visit => ?_, fun path visit hvisit => ?_, fun q w world => ?_⟩
  · exact passesOn_of_within (carryOut_within hadmits q)
  · exact passesOn_of_within (walk_within hadmits path fun e => passesOn_untraced (visit e))
  · exact passesOn_of_within (walk_within hadmits path hvisit)
  · exact w.perform_passedOn b q world

/-- A walk whose visitor reads every file, broken off by the second page of its first listing. -/
theorem refusals_passedOn_reading :
    let b := (Memory.backend { pageSize := .ofNat 1 }).refusing
    let t := onStore b {} default
    let visit (e : Entry) : Action (Traced (Refusing Memory)) Visit := do
      let _ ← t.carryOut b.traced (.getContent e.path)
      return .enter
    let memory := ["a", "b"].foldl (fun m k => Memory.write {} m k.toList [1] .block) default
    let lost : StoreError := .broken "connection lost"
    let store : Refusing Memory := ⟨memory, [none, some lost]⟩
    let w : World (Traced (Refusing Memory)) := .fresh ⟨store, []⟩
    let ended := (t.walk b.traced Path.root visit).exec w
    (∀ e, (visit e).PassesOn) ∧
    ended.1 = .error (.failed (.store lost)) ∧ ended.2.store.events.length = 2 ∧
    PassedOn w.store ended.2.store fun e => ended.1 = .error (.failed (.store e)) := by
  intro b t visit memory lost store w ended
  obtain ⟨hcarry, -, hwalk, -⟩ := refusals_passedOn t b
  have hvisit (e : Entry) : (visit e).PassesOn :=
    (hcarry (.getContent e.path)).bind fun _ _ _ _ => passesOn_of_quiet fun _ => rfl
  exact ⟨hvisit, by decide +kernel, by decide +kernel, hwalk Path.root visit hvisit w⟩

end FileTree
end BlobTree
