import BlobTree.FileTree
import BlobTree.Proofs.Execution

/-!
# BlobTree.Proofs.Budget

More pages and more levels. A listing or a walk that comes to its end within its budgets comes to
the same end within larger ones (`Prolongs`), so what it ends with is its own and not the
budget's.

* `Prolongs.bind`, `Prolongs.measured`, `Prolongs.forM`: one rule for each combinator.
* `Listing.rest_prolongs`, `Walk.visitBelow_prolongs`: the two recursions.
* `FileTree.list_prolongs`, `FileTree.walk_prolongs`: the operations that take them.
-/

namespace BlobTree
namespace Action

variable {σ α β : Type}

/-- An action does what another one does, unless the other gives up. -/
def Prolongs (y x : Action σ α) : Prop :=
  ∀ w, (x.exec w).1 ≠ .error .unfinished → y.exec w = x.exec w

variable {x y : Action σ α} {f g : α → Action σ β}

theorem Prolongs.refl (x : Action σ α) : x.Prolongs x :=
  fun _ _ => rfl

theorem prolongs_unfinished (y : Action σ α) : y.Prolongs unfinished :=
  fun _ h => absurd rfl h

theorem Prolongs.bind (h : y.Prolongs x) (hnext : ∀ a, (g a).Prolongs (f a)) :
    (y >>= g).Prolongs (x >>= f) := by
  intro w hw
  rcases hx : x.exec w with ⟨e | a, w'⟩
  · rw [exec_bind_error hx] at hw ⊢
    have hend : (x.exec w).1 ≠ .error .unfinished := by
      rw [hx]
      simpa using hw
    exact exec_bind_error ((h w hend).trans hx)
  · rw [exec_bind_ok hx] at hw ⊢
    have hend : (x.exec w).1 ≠ .error .unfinished := by
      rw [hx]
      rintro ⟨⟩
    rw [exec_bind_ok ((h w hend).trans hx)]
    exact hnext a w' hw

theorem Prolongs.measured (h : y.Prolongs x) (name : Name) (labels : Option Labels) :
    (measured name y labels).Prolongs (measured name x labels) := by
  intro w hw
  rw [(exec_measured_eq name x labels w).1] at hw
  rw [exec_measured, exec_measured, h w hw]

theorem Prolongs.ite {c : Prop} [Decidable c] {x' y' : Action σ α} (h : y.Prolongs x)
    (h' : y'.Prolongs x') : (if c then y else y').Prolongs (if c then x else x') := by
  split
  · exact h
  · exact h'

theorem Prolongs.forM {γ : Type} {f g : γ → Action σ PUnit} (h : ∀ c, (g c).Prolongs (f c))
    (cs : List γ) : (cs.forM g).Prolongs (cs.forM f) := by
  induction cs with
  | nil => exact .refl _
  | cons c rest ih => exact (h c).bind fun _ => ih

end Action

open BlobTree.Action

variable {σ : Type} (b : Backend σ)

theorem Listing.rest_prolongs (root : Root) (start : Name) {budget budget' : Nat}
    (h : budget ≤ budget') (c : Cursor) :
    (rest b root start budget' c).Prolongs (rest b root start budget c) := by
  induction budget generalizing budget' c with
  | zero => exact prolongs_unfinished _
  | succ budget ih =>
    obtain ⟨more, rfl⟩ := Nat.exists_eq_add_of_le' (Nat.le_trans (Nat.le_add_left 1 budget) h)
    refine (Prolongs.refl (fetch b root start c)).bind fun (paths, next) => ?_
    cases next with
    | finished => exact .refl _
    | repeated marker => exact .refl _
    | more c' => exact ih (Nat.le_of_succ_le_succ h) c'

/-- A walk that may go further down, and whose listings may take more pages. -/
theorem Walk.visitBelow_prolongs {t t' : Walk σ} (hlist : ∀ p, (t'.list p).Prolongs (t.list p))
    (hstat : t'.stat = t.stat) (visit : Entry → Action σ Visit) (logger : Option Logger)
    {depth depth' : Nat} (h : depth ≤ depth') (dir : Name) :
    (visitBelow t' visit logger depth' dir).Prolongs (visitBelow t visit logger depth dir) := by
  induction depth generalizing depth' dir with
  | zero => exact prolongs_unfinished _
  | succ depth ih =>
    obtain ⟨more, rfl⟩ := Nat.exists_eq_add_of_le' (Nat.le_trans (Nat.le_add_left 1 depth) h)
    refine (hlist dir).bind fun cs => .forM (fun child => ?_) _
    rw [hstat]
    refine (Prolongs.refl (Action.attempt (t.stat child))).bind fun r => ?_
    cases r with
    | error f => cases f <;> exact .refl _
    | ok entry =>
      refine (Prolongs.refl (visit entry)).bind fun decision => ?_
      exact .ite (ih (Nat.le_of_succ_le_succ h) child) (.refl _)

namespace FileTree

variable {t : FileTree} {pages depth : Nat}

theorem list_prolongs (hpages : t.pageBudget ≤ pages) (path : Name) :
    ({ t with pageBudget := pages, depthBudget := depth }.list b path).Prolongs
      (t.list b path) := by
  refine .ite (.measured ?_ _ _) (.refl _)
  exact (Listing.rest_prolongs b t.root _ hpages {}).bind fun _ => .refl _

theorem walk_prolongs (hpages : t.pageBudget ≤ pages) (hdepth : t.depthBudget ≤ depth)
    (path : Name) (visit : Entry → Action σ Visit) :
    ({ t with pageBudget := pages, depthBudget := depth }.walk b path visit).Prolongs
      (t.walk b path visit) := by
  refine .ite (Walk.visitBelow_prolongs (t := ⟨t.list b, t.stat b⟩) ?_ ?_ visit _ hdepth path)
    (.refl _)
  · exact list_prolongs b hpages
  · rfl

end FileTree
end BlobTree
