import BlobTree.FileTree.Program
import BlobTree.Proofs.Execution

/-!
# BlobTree.Proofs.FileTree.Desk

Actions on a store, carried out on a client's desk. Nothing but the store is looked at or changed,
so what an action comes to is what it comes to on the store alone (`Gives.onDesk`), and the tree's
looks at a store on a desk are its looks at the store.

* `onDesk_bind`, `onDesk_call` and their kin: one equation per combinator.
* `stat_onDesk`, `list_onDesk`: the two operations that a walk is made of.
-/

namespace BlobTree

variable {σ κ α β : Type}

namespace Action

/-- Does on a client's desk what an action does to a store. -/
def onDesk (x : Action σ α) : Action (Desk σ κ) α :=
  of fun w =>
    let (r, w') := x.exec { w with store := w.store.store }
    (r, { w' with store := { w.store with store := w'.store } })

theorem Gives.onDesk {x : Action σ α} {s s' : σ} {r : Except Stop α} (h : x.Gives s r s')
    (sessions : List Writer) (notes : κ) :
    x.onDesk.Gives (⟨s, sessions, notes⟩ : Desk σ κ) r ⟨s', sessions, notes⟩ := by
  rintro w hw
  obtain ⟨w', hx, rfl⟩ := h { w with store := w.store.store } (by rw [hw])
  refine ⟨{ w' with store := { w.store with store := w'.store } }, ?_, by rw [hw]⟩
  rw [Action.onDesk, exec_of, hx]

@[simp] theorem onDesk_pure (a : α) :
    (pure a : Action σ α).onDesk = (pure a : Action (Desk σ κ) α) := rfl

@[simp] theorem onDesk_fail (f : Failure) :
    (fail f : Action σ α).onDesk = (fail f : Action (Desk σ κ) α) := rfl

@[simp] theorem onDesk_unfinished :
    (unfinished : Action σ α).onDesk = (unfinished : Action (Desk σ κ) α) := rfl

@[simp] theorem onDesk_call (b : Backend σ) (c : Call) :
    (call b c).onDesk = (call b.onDesk c : Action (Desk σ κ) c.Reply) := rfl

@[simp] theorem onDesk_log (l : Logger) (level : Level) (fields : Fields) (message : String) :
    (log l level fields message : Action σ Unit).onDesk =
      (log l level fields message : Action (Desk σ κ) Unit) := rfl

theorem onDesk_ite (c : Prop) [Decidable c] (x y : Action σ α) :
    (if c then x else y).onDesk = (if c then x.onDesk else y.onDesk : Action (Desk σ κ) α) := by
  split <;> rfl

@[simp] theorem onDesk_ofExcept (r : Except Failure α) :
    (ofExcept r : Action σ α).onDesk = (ofExcept r : Action (Desk σ κ) α) := by
  cases r <;> rfl

@[simp] theorem onDesk_bind (x : Action σ α) (f : α → Action σ β) :
    (x >>= f).onDesk = (x.onDesk >>= fun a => (f a).onDesk : Action (Desk σ κ) β) := by
  funext w
  show (onDesk (x >>= f)).exec w = (x.onDesk >>= fun a => (f a).onDesk).exec w
  rcases hx : x.exec { w with store := w.store.store } with ⟨e | a, w'⟩
  · have hdesk : x.onDesk.exec w =
        (.error e, { w' with store := { w.store with store := w'.store } }) := by
      rw [onDesk, exec_of, hx]
    rw [exec_bind_error hdesk, onDesk, exec_of, exec_bind_error hx]
  · have hdesk : x.onDesk.exec w =
        (.ok a, { w' with store := { w.store with store := w'.store } }) := by
      rw [onDesk, exec_of, hx]
    rw [exec_bind_ok hdesk, onDesk, exec_of, exec_bind_ok hx]
    rfl

@[simp] theorem onDesk_attempt (x : Action σ α) :
    (attempt x).onDesk = (attempt x.onDesk : Action (Desk σ κ) (Except Failure α)) := by
  funext w
  show (onDesk (attempt x)).exec w = (attempt x.onDesk).exec w
  rw [exec_attempt, onDesk, exec_of, exec_attempt, onDesk, exec_of]
  rcases x.exec { w with store := w.store.store } with ⟨(f | _) | a, w'⟩ <;> rfl

@[simp] theorem onDesk_measured (name : Name) (x : Action σ α) (labels : Option Labels) :
    (measured name x labels).onDesk =
      (measured name x.onDesk labels : Action (Desk σ κ) α) := by
  funext w
  show (onDesk (measured name x labels)).exec w = (measured name x.onDesk labels).exec w
  rw [exec_measured, onDesk, exec_of, exec_measured, onDesk, exec_of]
  rcases x.exec { w with store := w.store.store } with ⟨(f | _) | a, w'⟩ <;> rfl

end Action

open BlobTree.Action

variable (b : Backend σ)

theorem Listing.fetch_onDesk (root : Root) (start : Name) (c : Cursor) :
    (fetch b root start c).onDesk =
      (fetch b.onDesk root start c : Action (Desk σ κ) (List Name × Cursor.Next)) := by
  simp only [fetch, onDesk_bind, onDesk_ofExcept]
  rfl

theorem Listing.rest_onDesk (root : Root) (start : Name) (budget : Nat) (c : Cursor) :
    (rest b root start budget c).onDesk =
      (rest b.onDesk root start budget c : Action (Desk σ κ) (List Name)) := by
  induction budget generalizing c with
  | zero => rfl
  | succ budget ih =>
    simp only [rest, onDesk_bind, fetch_onDesk]
    refine bind_congr fun (paths, next) => ?_
    cases next with
    | finished => rfl
    | repeated marker => rfl
    | more c => exact ih c

namespace FileTree

variable (t : FileTree)

theorem onDirectory_onDesk (path : Name) (x : Action σ α) :
    (onDirectory path x).onDesk = (onDirectory path x.onDesk : Action (Desk σ κ) α) :=
  onDesk_ite _ _ _

theorem properties_onDesk (key : Name) :
    (properties? b key).onDesk =
      (properties? b.onDesk key : Action (Desk σ κ) (Option Properties)) := by
  simp only [properties?, onDesk_bind, onDesk_attempt]
  refine bind_congr fun r => ?_
  rcases r with f | p
  · cases f with
    | store e => cases e <;> rfl
    | _ => rfl
  · rfl

/-- What a look at a path comes to once the file is known. -/
theorem entry_onDesk (path : Name) (file? : Option Properties) :
    (do
      match file? with
      | some p => return .file path p.size p.modTime
      | none =>
        let page ← call b (.listPage (t.root.listingPrefix path) { maxResults := some (.ofNat 1) })
        if page.keys.isEmpty then fail (.pathNotFound path) else return .directory path :
      Action σ Entry).onDesk = (do
      match file? with
      | some p => return .file path p.size p.modTime
      | none =>
        let page ← call b.onDesk
          (.listPage (t.root.listingPrefix path) { maxResults := some (.ofNat 1) })
        if page.keys.isEmpty then fail (.pathNotFound path) else return .directory path :
      Action (Desk σ κ) Entry) := by
  cases file? with
  | some p => rfl
  | none =>
    simp only [onDesk_bind]
    exact bind_congr fun page => onDesk_ite _ _ _

theorem stat_onDesk (path : Name) :
    (t.stat b path).onDesk = (t.stat b.onDesk path : Action (Desk σ κ) Entry) := by
  simp only [stat, onDirectory_onDesk, counted, onDesk_measured]
  refine congrArg (onDirectory path) (congrArg (measured _ · _) ?_)
  by_cases hroot : path ≠ Path.root
  · simp only [if_pos hroot, onDesk_bind]
    refine bind_congr fun there => ?_
    cases there with
    | true =>
      simp only [if_true, onDesk_bind, properties_onDesk]
      exact bind_congr (entry_onDesk b t path)
    | false => exact entry_onDesk b t path none
  · simp only [if_neg hroot]
    exact entry_onDesk b t path none

theorem list_onDesk (path : Name) :
    (t.list b path).onDesk = (t.list b.onDesk path : Action (Desk σ κ) (List Name)) := by
  simp only [list, onDirectory_onDesk, counted, onDesk_measured, onDesk_bind, Listing.below,
    Listing.rest_onDesk]
  refine congrArg (onDirectory path) (congrArg (measured _ · _) (bind_congr fun paths => ?_))
  exact onDesk_ite _ _ _

end FileTree
end BlobTree
