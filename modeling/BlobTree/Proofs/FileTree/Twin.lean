import BlobTree.Proofs.FileTree.Within
import BlobTree.Proofs.Writer.Sends

/-!
# BlobTree.Proofs.FileTree.Twin

Two runs of the same action from stores that are related (`Twin`). If related stores answer every
call about some keys alike and stay related (`Respects`), the runs of an action that asks about no
other keys end alike.

* `Twin.bind`, `Twin.recover`: in sequence, and where a failure is looked at first.
* `Within.twin`: every action that is made of calls and failures; `Writer.perform_alike`: every call
  on a session.
-/

namespace BlobTree

variable {σ α β : Type}

/-- Calls about some keys are answered alike in related stores, which stay related. -/
def Backend.Respects (b : Backend σ) (near : Name → Prop) (R : σ → σ → Prop) : Prop :=
  ∀ c : Call, (∀ k ∈ c.keys, near k) → ∀ s₁ s₂, R s₁ s₂ →
    (b.answer s₁ c).1 = (b.answer s₂ c).1 ∧ R (b.answer s₁ c).2 (b.answer s₂ c).2

namespace Action

/-- From related stores the action ends alike and leaves related stores. -/
def Twin (R : σ → σ → Prop) (x : Action σ α) : Prop :=
  ∀ w₁ w₂, R w₁.store w₂.store →
    (x.exec w₁).1 = (x.exec w₂).1 ∧ R (x.exec w₁).2.store (x.exec w₂).2.store

variable {R : σ → σ → Prop} {b : Backend σ} {near : Name → Prop} {x : Action σ α}

theorem twin_of_quiet (r : Except Stop α) (h : ∀ s, x.Gives s r s) : x.Twin R := by
  intro w₁ w₂ hR
  obtain ⟨hend₁, hstore₁⟩ := (h w₁.store).exec
  obtain ⟨hend₂, hstore₂⟩ := (h w₂.store).exec
  rw [hend₁, hend₂, hstore₁, hstore₂]
  exact ⟨rfl, hR⟩

theorem twin_of_one (hb : b.Respects near R) {c : Call} (hkeys : ∀ k ∈ c.keys, near k)
    (ending : Except StoreError c.Reply → Except Stop α)
    (hx : ∀ s, x.Gives s (ending (b.answer s c).1) (b.answer s c).2) : x.Twin R := by
  intro w₁ w₂ hR
  obtain ⟨hend₁, hstore₁⟩ := (hx w₁.store).exec
  obtain ⟨hend₂, hstore₂⟩ := (hx w₂.store).exec
  obtain ⟨hreply, hafter⟩ := hb c hkeys _ _ hR
  rw [hend₁, hend₂, hstore₁, hstore₂, hreply]
  exact ⟨rfl, hafter⟩

theorem Twin.runs (hx : x.Twin R) {w₁ w₂ : World σ} (hR : R w₁.store w₂.store) :
    ∃ r w₁' w₂', x.exec w₁ = (r, w₁') ∧ x.exec w₂ = (r, w₂') ∧ R w₁'.store w₂'.store := by
  obtain ⟨hend, hafter⟩ := hx w₁ w₂ hR
  exact ⟨(x.exec w₁).1, (x.exec w₁).2, (x.exec w₂).2, rfl, Prod.ext hend.symm rfl, hafter⟩

theorem Twin.bind {f : α → Action σ β} (hx : x.Twin R)
    (hf : ∀ w a w', x.exec w = (.ok a, w') → (f a).Twin R) : (x >>= f).Twin R := by
  intro w₁ w₂ hR
  obtain ⟨r, w₁', w₂', hrun₁, hrun₂, hafter⟩ := hx.runs hR
  cases r with
  | error e =>
    rw [exec_bind_error hrun₁, exec_bind_error hrun₂]
    exact ⟨rfl, hafter⟩
  | ok a =>
    rw [exec_bind_ok hrun₁, exec_bind_ok hrun₂]
    exact hf w₁ a w₁' hrun₁ w₁' w₂' hafter

theorem Twin.attempt (hx : x.Twin R) : (attempt x).Twin R := by
  intro w₁ w₂ hR
  obtain ⟨r, w₁', w₂', hrun₁, hrun₂, hafter⟩ := hx.runs hR
  rw [exec_attempt, exec_attempt, hrun₁, hrun₂]
  obtain (f | _) | a := r <;> exact ⟨rfl, hafter⟩

theorem Twin.measured (hx : x.Twin R) (name : Name) (labels : Option Labels) :
    (measured name x labels).Twin R := by
  intro w₁ w₂ hR
  obtain ⟨hend₁, hstore₁⟩ := exec_measured_eq name x labels w₁
  obtain ⟨hend₂, hstore₂⟩ := exec_measured_eq name x labels w₂
  rw [hend₁, hend₂, hstore₁, hstore₂]
  exact hx w₁ w₂ hR

/-- An action whose failure to find a path may be followed by more. -/
theorem Twin.recover {f : Except Failure α → Action σ β} (hx : x.Twin R)
    (hok : ∀ w a w', x.exec w = (.ok a, w') → (f (.ok a)).Twin R)
    (hpath : ∀ p, (f (.error (.pathNotFound p))).Twin R)
    (hfail : ∀ e, (∀ p, e ≠ .pathNotFound p) → f (.error e) = fail e) :
    (Action.attempt x >>= f).Twin R := by
  refine hx.attempt.bind fun w r w' hrun => ?_
  cases r with
  | ok a => exact hok w a w' (exec_of_attempt_ok hrun)
  | error e =>
    rcases e.pathNotFound_or with ⟨p, rfl⟩ | hother
    · exact hpath p
    · rw [hfail e hother]
      exact twin_of_quiet _ (gives_fail e)

end Action

namespace FileTree

open BlobTree.Action

variable {R : σ → σ → Prop} {b : Backend σ} {S : Scope σ}

/-- Every action within a scope on whose keys the stores answer alike, if the functions that are
handed to its walks end alike. -/
theorem Within.twin (hfits : S.Fits b) (hb : b.Respects S.near R)
    (hstarts : ∀ start, S.starts start → S.near start) (hvisits : ∀ x, S.visits x → x.Twin R)
    {x : Action σ α} {Q : α → Prop} (hx : Within b S x Q) : x.Twin R := by
  induction hx with
  | @pure _ _ a => exact twin_of_quiet _ (gives_pure a)
  | @fail _ _ f => exact twin_of_quiet _ (gives_fail f)
  | unfinished => exact twin_of_quiet _ gives_unfinished
  | log l level fields message => exact twin_of_quiet _ (gives_log l level fields message)
  | @plain c _ hkeys => exact twin_of_one hb hkeys _ (gives_call b c)
  | @page start request hstart =>
    have hkeys : ∀ k ∈ (Call.listPage start request).keys, S.near k := by
      simpa [Call.keys] using hstarts start hstart
    exact twin_of_one hb hkeys _ (gives_call b _)
  | @seek c path _ hkeys => exact twin_of_one hb hkeys _ (callAt_gives b path c)
  | @properties key hkey =>
    have hkeys : ∀ k ∈ (Call.properties key).keys, S.near k := by simpa [Call.keys] using hkey
    exact twin_of_one hb hkeys _ (properties_gives b key)
  | visit h => exact hvisits _ h
  | bind hx _ ihx ihf => exact ihx.bind fun _ a _ hrun => ihf a (hx.yields hfits hrun)
  | measured name labels _ ih => exact ih.measured name labels
  | recover hx _ _ hfail ihx ihok ihpath =>
    exact ihx.recover (fun _ a _ hrun => ihok a (hx.yields hfits hrun)) ihpath hfail

end FileTree

section Sessions

variable {R : σ → σ → Prop} {b : Backend σ} {near : Name → Prop}

theorem Append.send_alike (hb : b.Respects near R) {key : Name} (hkey : near key)
    (pieces : List Bytes) {s₁ s₂ : σ} (hR : R s₁ s₂) :
    (send b key pieces s₁).1 = (send b key pieces s₂).1 ∧
      R (send b key pieces s₁).2 (send b key pieces s₂).2 := by
  induction pieces generalizing s₁ s₂ with
  | nil => exact ⟨rfl, hR⟩
  | cons piece more ih =>
    have hkeys : ∀ k ∈ (Call.appendChunk key piece).keys, near k := by
      simpa [Call.keys] using hkey
    obtain ⟨hreply, hafter⟩ := hb (.appendChunk key piece) hkeys s₁ s₂ hR
    rcases hanswer₁ : b.answer s₁ (.appendChunk key piece) with ⟨r, s₁'⟩
    rcases hanswer₂ : b.answer s₂ (.appendChunk key piece) with ⟨r', s₂'⟩
    rw [hanswer₁, hanswer₂] at hreply hafter
    obtain rfl : r = r' := hreply
    rw [send, send, hanswer₁, hanswer₂]
    cases r with
    | error e => exact ⟨rfl, hafter⟩
    | ok _ =>
      obtain ⟨hreport, hstores⟩ := ih hafter
      exact ⟨congrArg (fun r : Report => { r with appended := piece.length + r.appended }) hreport,
        hstores⟩

theorem Writer.perform_alike (hb : b.Respects near R) (q : Request) {w : Writer}
    (hkey : near w.key) {w₁ w₂ : World σ} (hR : R w₁.store w₂.store) :
    (w.perform b q w₁).1 = (w.perform b q w₂).1 ∧
      (w.perform b q w₁).2.1 = (w.perform b q w₂).2.1 ∧
      R (w.perform b q w₁).2.2.store (w.perform b q w₂).2.2.store := by
  rcases perform_cases b q w with ⟨pieces, ending, -, -, hrun⟩ | ⟨w', -, hrun⟩
  · obtain ⟨hreport, hafter⟩ := Append.send_alike hb hkey pieces hR
    obtain ⟨journal₁, h₁⟩ := hrun w₁
    obtain ⟨journal₂, h₂⟩ := hrun w₂
    rw [h₁, h₂, hreport]
    exact ⟨rfl, rfl, hafter⟩
  · have hkeys : ∀ k ∈ (Call.delete w.key).keys, near k := by simpa [Call.keys] using hkey
    obtain ⟨hreply, hafter⟩ := hb (.delete w.key) hkeys _ _ hR
    obtain ⟨journal₁, h₁⟩ := hrun w₁
    obtain ⟨journal₂, h₂⟩ := hrun w₂
    rw [h₁, h₂, hreply]
    exact ⟨rfl, rfl, hafter⟩

end Sessions

end BlobTree
