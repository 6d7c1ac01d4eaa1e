import Mathlib.Control.Monad.Basic
import BlobTree.FileTree.Program
import BlobTree.Proofs.FileTree.Directory
import BlobTree.Proofs.FileTree.Twin
import BlobTree.Proofs.Store.Page

/-!
# BlobTree.Proofs.FileTree.Isolation

A tree and the keys that are not under its root. Whatever a client does with the tree, what lies
under other keys makes no difference to it and stays as it was, also under the root's own key and
under keys that begin with it but go on with something else than a separator.

* `Alike`: two desks that a client cannot tell apart, and what has become of the other keys.
* `Alike.step`: every call about keys under the root keeps it so; `run_alike`: every program.
* `programs_isolated`: the two runs side by side.
-/

namespace BlobTree

namespace Root

variable {r : Root}

theorem owns_of_isPrefixOf {start k : Name} (hstart : r.owns start) (h : start.isPrefixOf k) :
    r.owns k := by
  simp only [owns, Bool.or_eq_true, List.isPrefixOf_iff_prefix] at hstart h ⊢
  exact hstart.imp id fun hkey => hkey.trans h

theorem owns_listingPrefix {p : Name} (hp : Path.isDirectory p) : r.owns (r.listingPrefix p) :=
  owns_of_listed hp (List.isPrefixOf_iff_prefix.mpr List.prefix_rfl)

theorem owns_iff (h : r.key ≠ []) (k : Name) : r.owns k ↔ r.key ++ [Path.separator] <+: k := by
  simp [owns, h]

end Root

namespace FileTree

open BlobTree.Action

variable {κ α : Type}

/-- Two desks with the same sessions and notes, whose stores hold the same under the root. Under
every other key the first one holds what `m₁` does and the second one what `m₂` does. -/
structure Alike (root : Root) (m₁ m₂ : Memory) (d₁ d₂ : Desk Memory κ) : Prop where
  agree : Memory.Agree (root.owns ·) d₁.store d₂.store
  first : ∀ k, ¬root.owns k → d₁.store.objects.get? k = m₁.objects.get? k
  second : ∀ k, ¬root.owns k → d₂.store.objects.get? k = m₂.objects.get? k
  sessions : d₁.sessions = d₂.sessions
  owned : ∀ w ∈ d₁.sessions, root.owns w.key
  notes : d₁.notes = d₂.notes

section Isolation

variable {t : FileTree} {o : Memory.Options} {m₁ m₂ : Memory}

/-- Keys under the root only; a page of a listing holds what begins with its start. -/
def underRoot (t : FileTree) (R : Desk Memory κ → Desk Memory κ → Prop) :
    Scope (Desk Memory κ) where
  near := (t.root.owns ·)
  starts := (t.root.owns ·)
  holds start k := start.isPrefixOf k
  raises _ := True
  stops := True
  visits := Twin R

variable {R : Desk Memory κ → Desk Memory κ → Prop}

theorem underRoot_admits : (underRoot t R).Admits t where
  raises _ := trivial
  stops := trivial
  key _ hp := Root.owns_keyOf hp
  start _ hp := Root.owns_listingPrefix hp
  listed p q hp := by
    rintro ⟨k, hk, hpath⟩
    show t.root.owns (t.root.keyOf q)
    rw [(Root.listed_path hp hk hpath).2]
    exact Root.owns_of_listingPrefix hp hk

theorem underRoot_fits : (underRoot t R).Fits (Memory.backend o).onDesk := by
  intro start request d page hpage k hk
  obtain rfl : Memory.page o.pageSize d.store.objects.keys start request = page :=
    Except.ok.inj hpage
  exact (Memory.mem_page hk).2

/-- A call about keys under the root leaves the others as they are. -/
theorem elsewhere_step {m m' : Memory} {c : Call} (hkeys : ∀ k ∈ c.keys, t.root.owns k)
    (h : ∀ k, ¬t.root.owns k → m.objects.get? k = m'.objects.get? k) :
    ∀ k, ¬t.root.owns k → (m.step o c).2.objects.get? k = m'.objects.get? k := by
  intro k hk
  rw [← h k hk]
  rcases Memory.step_changes o m c with hsame | ⟨key, hkey, hbut⟩
  · rw [hsame]
  · refine hbut k ?_
    rintro rfl
    exact hk (hkeys k hkey)

namespace Alike

theorem step : (Memory.backend o).onDesk.Respects (t.root.owns ·)
    (Alike (κ := κ) t.root m₁ m₂) := by
  intro c hkeys d₁ d₂ h
  have hlist : ∀ start request, c = .listPage start request → ∀ k, start.isPrefixOf k →
      t.root.owns k := by
    rintro start request rfl k hk
    exact Root.owns_of_isPrefixOf (hkeys start (by simp [Call.keys])) hk
  -- a page shows nothing but keys under the root, so the neighbours do not move its marker either
  obtain ⟨hreply, hagree⟩ := h.agree.step o hkeys hlist
  exact ⟨hreply, hagree, elsewhere_step hkeys h.first, elsewhere_step hkeys h.second, h.sessions,
    h.owned, h.notes⟩

theorem aside (f : List Writer → κ → Except Failure α × κ) :
    (Program.aside f).Twin (Alike t.root m₁ m₂) := by
  intro w₁ w₂ h
  have heq : f w₁.store.sessions w₁.store.notes = f w₂.store.sessions w₂.store.notes := by
    rw [h.sessions, h.notes]
  exact ⟨congrArg (fun r => r.1.mapError Stop.failed) heq,
    { h with notes := congrArg Prod.snd heq }⟩

theorem keep {a : Answer} (ha : ∀ w, a = .session w → t.root.owns w.key) :
    (Program.keep a).Twin (Alike (κ := κ) t.root m₁ m₂) := by
  intro w₁ w₂ h
  refine ⟨rfl, { h with
    sessions := congrArg (· ++ a.session?.toList) h.sessions
    owned := fun w hw => ?_ }⟩
  rcases List.mem_append.mp hw with hw | hw
  · exact h.owned w hw
  · exact ha w (Answer.eq_session hw)

theorem callSession (n : Nat) (q : Writer.Request) :
    (Program.callSession (Memory.backend o) n q).Twin (Alike (κ := κ) t.root m₁ m₂) := by
  intro w₁ w₂ h
  simp only [Program.callSession, exec_of, ← h.sessions]
  cases hn : w₁.store.sessions[n]? with
  | none => exact ⟨rfl, h⟩
  | some s =>
    have hkey := h.owned s (List.mem_of_getElem? hn)
    obtain ⟨hend, hsession, hafter⟩ := s.perform_alike step q hkey h
    refine ⟨congrArg (Except.mapError Stop.failed) hend, { hafter with
      sessions := congrArg₂ (fun ss s => ss.set n s) hafter.sessions hsession
      owned := fun w hw => ?_ }⟩
    · rcases List.mem_or_eq_of_mem_set hw with hw | rfl
      · exact hafter.owned w hw
      · rwa [s.perform_key]

end Alike

theorem run_alike (p : Program κ α) :
    (p.run t (Memory.backend o)).Twin (Alike t.root m₁ m₂) := by
  induction p with
  | own f => exact Alike.aside f
  | ask q =>
    have hq := carryOut_within (b := (Memory.backend o).onDesk)
      (underRoot_admits (t := t) (R := Alike (κ := κ) t.root m₁ m₂)) q
    exact (hq.twin underRoot_fits Alike.step (fun _ h => h) fun _ h => h).bind fun _ a _ hrun =>
      Alike.keep (hq.yields underRoot_fits hrun)
  | session n q => exact Alike.callSession n q
  | walk path visit ih =>
    exact (walk_within underRoot_admits path ih).twin underRoot_fits Alike.step (fun _ h => h)
      fun _ h => h
  | attempt p ih => exact ih.attempt
  | bind p f ihp ihf => exact ihp.bind fun _ a _ _ => ihf a

/-- **Isolation.** Two memory stores that hold the same under the keys of a root, and any program
that works with a tree at this root: it ends alike in both, with the same sessions and notes; the
stores still hold the same under the keys of the root; and under every other key each of them holds
what it held before. -/
theorem programs_isolated (t : FileTree) (hroot : t.root.key ≠ []) (o : Memory.Options)
    (p : Program κ α) (notes : κ) (w₁ w₂ : World Memory)
    (hreadings : w₁.store.readings = w₂.store.readings)
    (hagree : ∀ k, t.root.key ++ [Path.separator] <+: k →
      w₁.store.objects.get? k = w₂.store.objects.get? k) :
    let run (w : World Memory) :=
      (p.run t (Memory.backend o)).exec { w with store := { store := w.store, notes } }
    (run w₁).1 = (run w₂).1 ∧
    (run w₁).2.store.sessions = (run w₂).2.store.sessions ∧
    (run w₁).2.store.notes = (run w₂).2.store.notes ∧
    (∀ k, t.root.key ++ [Path.separator] <+: k →
      (run w₁).2.store.store.objects.get? k = (run w₂).2.store.store.objects.get? k) ∧
    ∀ w ∈ [w₁, w₂], ∀ k, ¬t.root.key ++ [Path.separator] <+: k →
      (run w).2.store.store.objects.get? k = w.store.objects.get? k := by
  intro run
  have hstart : Alike t.root w₁.store w₂.store { store := w₁.store, notes }
      { store := w₂.store, notes } := {
    agree := ⟨fun k hk => hagree k ((Root.owns_iff hroot k).mp hk), hreadings⟩
    first _ _ := rfl
    second _ _ := rfl
    sessions := rfl
    owned := by simp
    notes := rfl }
  obtain ⟨hend, hafter⟩ : (run w₁).1 = (run w₂).1 ∧
      Alike t.root w₁.store w₂.store (run w₁).2.store (run w₂).2.store := run_alike p _ _ hstart
  refine ⟨hend, hafter.sessions, hafter.notes, fun k hk => ?_, fun w hw k hk => ?_⟩
  · exact hafter.agree.objects k ((Root.owns_iff hroot k).mpr hk)
  · have hother : ¬t.root.owns k := fun howns => hk ((Root.owns_iff hroot k).mp howns)
    rcases List.mem_cons.mp hw with rfl | hw
    · exact hafter.first k hother
    · obtain rfl := List.mem_singleton.mp hw
      exact hafter.second k hother

/-- A client that opens a session, writes to it and then asks for this and that. -/
def visitor : Program Unit (List (Except Failure Answer)) :=
  .bind (.ask (.writer "/c".toList false)) fun _ =>
  .bind (.session 0 (.write [1, 2])) fun _ =>
  .bind (.session 0 .close) fun _ =>
  .inTurn <| [.list Path.root, .getContent "/c".toList, .stat "/-old".toList,
    .delete "/a".toList].map .ask

/-- Neighbours of the root `r`: an object of this name in one store, a root `r-old` in the other. -/
theorem programs_isolated_neighbours :
    let o : Memory.Options := {}
    let t := onStore (Memory.backend o) { rootDirectory := "//r/".toList } default
    let base := Memory.write o default "r/a".toList [1] .block
    let w₁ : World Memory := .fresh (base.write o "r".toList [2] .block)
    let w₂ : World Memory := .fresh (base.write o "r-old/x".toList [3] .append)
    let run (w : World Memory) :=
      (visitor.run t (Memory.backend o)).exec { w with store := { store := w.store, notes := () } }
    t.root.key ≠ [] ∧
    (run w₁).1 = .ok [.ok (.paths ["/a".toList, "/c".toList]), .ok (.content [1, 2]),
      .error (.pathNotFound "/-old".toList), .ok .done] ∧
    (run w₁).1 = (run w₂).1 ∧
    (run w₂).2.store.store.objects.get? "r-old/x".toList = some ⟨[3], .append, 2⟩ := by
  intro o t base w₁ w₂ run
  have hroot : t.root.key ≠ [] := by decide +kernel
  have hagree : ∀ k, t.root.key ++ [Path.separator] <+: k →
      w₁.store.objects.get? k = w₂.store.objects.get? k := by
    intro k hk
    have hr : k ≠ "r".toList := by
      rintro rfl
      exact absurd hk (by decide +kernel)
    have hold : k ≠ "r-old/x".toList := by
      rintro rfl
      exact absurd hk (by decide +kernel)
    exact (Memory.sameBut_write _ _ _ k hr).trans (Memory.sameBut_write _ _ _ k hold).symm
  obtain ⟨hend, -, -, -, hothers⟩ :=
    programs_isolated t hroot o visitor () w₁ w₂ rfl hagree
  refine ⟨hroot, by decide +kernel, hend, ?_⟩
  rw [hothers w₂ (by simp) _ (by decide +kernel)]
  decide +kernel

end Isolation

end FileTree
end BlobTree
