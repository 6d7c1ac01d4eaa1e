import Mathlib.Control.Monad.Basic
import BlobTree.Proofs.Writer.Turn
import BlobTree.Store.Memory
import BlobTree.Store.Refusing

/-!
# BlobTree.Proofs.Writer.Lifecycle

The life of a session over a whole run, whatever the store refuses. What a session has left behind
it never comes back to, so that the state and the outcome stay in step and the store is asked for
nothing more once the session is not open.

* `kept_of_mem`, `pairwise_history`: what every call keeps holds along a run, and between any two
  calls of one.
* `run_lifecycle`: the laws of a run (`Orderly`).
-/

namespace BlobTree
namespace Writer

variable {σ : Type}

section Kept

theorem leads_mem {q : Request} {p : Phase} (hp : p ∈ phases) (hq : q ≠ .cancel) :
    q.leads p ∈ phases := by
  have hclose : ∀ p ∈ phases, Request.close.leads p ∈ phases := by decide
  cases q with
  | write data => exact hp
  | commit => simp [Request.leads, phases]
  | cancel => exact absurd rfl hq
  | close => exact hclose p hp

theorem eq_of_open {p : Phase} (hp : p ∈ phases) (hopen : p.1 = .open) : p = (.open, .pending) := by
  have hall : ∀ p ∈ phases, p.1 = .open → p = (.open, .pending) := by decide
  exact hall p hp hopen

theorem eq_close {q : Request} {s : State} (hlegal : s ∈ q.operation.allowed) (hs : s ≠ .open) :
    q = .close := by
  cases q with
  | close => rfl
  | _ => simp_all [Request.operation, Operation.allowed]

namespace Turn.Came

variable {t : Turn σ}

theorem phase_mem (h : t.Came) (hbefore : t.before.1.phase ∈ phases) :
    t.after.1.phase ∈ phases := by
  cases h with
  | illegal _ _ _ hafter => rwa [hafter]
  | refused _ _ _ _ _ _ hphase => rwa [hphase]
  | done _ _ hrequest _ _ _ hphase =>
    rw [hphase]
    exact leads_mem hbefore hrequest
  | cancelled _ _ _ _ _ _ hphase => simp [hphase, phases]

/-- A session that is not open asks for nothing and does not open again. -/
theorem not_open (h : t.Came) (hover : t.before.1.state ≠ .open) :
    t.calls = [] ∧ t.after.1.state ≠ .open := by
  cases h with
  | illegal _ _ hcalls hafter => exact ⟨hcalls, by rwa [hafter]⟩
  | refused _ hopen => exact absurd hopen hover
  | done _ hlegal _ _ hquiet _ hphase =>
    rw [eq_close hlegal hover, leads_close hover] at hphase
    have hstate : t.after.1.state = .closed := congrArg Prod.fst hphase
    exact ⟨hquiet hover, by simp [hstate]⟩
  | cancelled _ hopen => exact absurd hopen hover

theorem outcome_eq (h : t.Came) (hbefore : t.before.1.phase ∈ phases)
    (hsettled : t.before.1.outcome ≠ .pending) : t.after.1.outcome = t.before.1.outcome := by
  have hover : t.before.1.state ≠ .open := fun hopen =>
    hsettled (congrArg Prod.snd (eq_of_open hbefore hopen))
  cases h with
  | illegal _ _ _ hafter => rw [hafter]
  | refused _ hopen => exact absurd hopen hover
  | done _ hlegal _ _ _ _ hphase =>
    rw [eq_close hlegal hover, leads_close hover] at hphase
    exact congrArg Prod.snd hphase
  | cancelled _ hopen => exact absurd hopen hover

theorem eq_of_closed (h : t.Came) (hclosed : t.before.1.state = .closed) : t.after = t.before := by
  have hnone : t.before.1.state ∉ t.request.operation.allowed := by
    rw [hclosed]
    cases t.request <;> simp [Request.operation, Operation.allowed]
  cases h with
  | illegal _ _ _ hafter => exact hafter
  | refused _ hopen => rw [hclosed] at hopen; cases hopen
  | done _ hlegal => exact absurd hlegal hnone
  | cancelled _ hopen => rw [hclosed] at hopen; cases hopen

end Turn.Came

variable {b : Backend σ} {w : Writer} {world : World (Traced σ)} {P : Writer → Prop}

theorem kept_of_mem (hkeep : ∀ t : Turn σ, t.Came → P t.before.1 → P t.after.1)
    (qs : List Request) (hw : P w) : ∀ t ∈ history b qs w world, t.Came ∧ P t.before.1 := by
  induction qs generalizing w world with
  | nil =>
    intro t ht
    cases ht
  | cons q rest ih =>
    intro t ht
    have hcame := turn_came b q w world
    rcases List.mem_cons.mp ht with rfl | ht
    · exact ⟨hcame, hw⟩
    · exact ih (hkeep _ hcame hw) t ht

/-- What a call says of every run after it holds between any two calls of a run. -/
theorem pairwise_history {R : Turn σ → Turn σ → Prop}
    (hkeep : ∀ t : Turn σ, t.Came → P t.before.1 → P t.after.1)
    (hR : ∀ t : Turn σ, P t.after.1 → ∀ qs, ∀ u ∈ history b qs t.after.1 t.after.2, R t u)
    (qs : List Request) (hw : P w) : (history b qs w world).Pairwise R := by
  induction qs generalizing w world with
  | nil => exact .nil
  | cons q rest ih =>
    have hafter := hkeep _ (turn_came b q w world) hw
    exact .cons (hR _ hafter rest) (ih hafter)

theorem calls_eq_nil (qs : List Request) (hover : w.state ≠ .open) :
    ∀ t ∈ history b qs w world, t.calls = [] := by
  intro t ht
  obtain ⟨hcame, hbefore⟩ := kept_of_mem (P := (·.state ≠ .open))
    (fun t hcame hbefore => (hcame.not_open hbefore).2) qs hover t ht
  exact (hcame.not_open hbefore).1

/-- At most one object is deleted, because a session is over once it has been cancelled. -/
theorem countP_isDelete_le (b : Backend σ) (qs : List Request) (w : Writer)
    (world : World (Traced σ)) :
    ((history b qs w world).flatMap Turn.calls).countP (·.call.isDelete) ≤ 1 := by
  induction qs generalizing w world with
  | nil => exact Nat.zero_le _
  | cons q rest ih =>
    let t := turn b q w world
    have hlater := ih t.after.1 t.after.2
    have hnone : (∀ c ∈ t.calls, c.call.isAppend) → t.calls.countP (·.call.isDelete) = 0 := by
      intro happends
      refine List.countP_eq_zero.mpr fun c hc => ?_
      have happend := happends c hc
      cases hcall : c.call <;> simp_all [Call.isAppend, Call.isDelete]
    show ((t :: history b rest t.after.1 t.after.2).flatMap Turn.calls).countP _ ≤ 1
    rw [List.flatMap_cons, List.countP_append]
    cases turn_came b q w world with
    | illegal _ _ hcalls => simpa [t, hcalls] using hlater
    | refused _ _ _ hcalls => rw [hnone hcalls, Nat.zero_add]; exact hlater
    | done _ _ _ hcalls =>
      rw [hnone fun c hc => (hcalls c hc).1, Nat.zero_add]
      exact hlater
    | cancelled c _ _ hcalls _ _ hphase =>
      have hover : t.after.1.state ≠ .open := by
        rw [show t.after.1.state = .cancelled from congrArg Prod.fst hphase]
        decide
      have hrest : (history b rest t.after.1 t.after.2).flatMap Turn.calls = [] :=
        List.flatMap_eq_nil_iff.mpr (calls_eq_nil rest hover)
      have hone := List.countP_le_length (p := fun c : Event σ => c.call.isDelete) (l := t.calls)
      rw [hrest]
      simpa [t, hcalls] using hone

end Kept

structure Orderly (turns : List (Turn σ)) : Prop where
  phases : ∀ t ∈ turns, t.after.1.phase ∈ Writer.phases
  /-- An outcome stands. -/
  outcome : turns.Pairwise fun t u =>
    t.after.1.outcome ≠ .pending → u.after.1.outcome = t.after.1.outcome
  /-- A closed session stays as it is. -/
  closed : turns.Pairwise fun t u => t.after.1.state = .closed → u.after.1 = t.after.1
  /-- Nothing is appended once the session is not open. -/
  appends : turns.Pairwise fun t u =>
    t.after.1.state ≠ .open → ∀ c ∈ u.calls, ¬c.call.isAppend
  illegal : ∀ t ∈ turns, t.before.1.state ∉ t.request.operation.allowed →
    t.result = .error (.invalidState t.request.operation t.before.1.state) ∧ t.calls = [] ∧
      t.after = t.before
  legal : ∀ t ∈ turns, t.before.1.state ∈ t.request.operation.allowed →
    (∀ operation state, t.result ≠ .error (.invalidState operation state)) ∧
      ((∀ c ∈ t.calls, c.error? = none) →
        (∃ n, t.result = .ok n) ∧ t.after.1.phase = t.request.leads t.before.1.phase)
  /-- A commit or a close whose flush is refused leaves the session open. -/
  unflushed : ∀ t ∈ turns, t.request = .commit ∨ t.request = .close →
    (∃ c ∈ t.calls, c.error? ≠ none) →
      (∃ e, t.result = .error (.store e)) ∧ t.after.1.phase = (.open, .pending)
  /-- The object is deleted by a cancel that is accepted, which also ends the session if the
  delete is refused. -/
  deletes : ∀ t ∈ turns, ((∃ c ∈ t.calls, c.call.isDelete) ↔
    t.request = .cancel ∧ t.before.1.state = .open)
  cancelled : ∀ t ∈ turns, t.request = .cancel → t.before.1.state = .open →
    (∃ c, t.calls = [c] ∧ c.call = .delete t.before.1.key) ∧
      t.after.1.phase = (.cancelled, .cancelled)
  once : (turns.flatMap Turn.calls).countP (·.call.isDelete) ≤ 1

namespace Turn.Came

variable {t : Turn σ}

theorem illegal_ends (h : t.Came) (hillegal : t.before.1.state ∉ t.request.operation.allowed) :
    t.result = .error (.invalidState t.request.operation t.before.1.state) ∧ t.calls = [] ∧
      t.after = t.before := by
  cases h with
  | illegal _ hresult hcalls hafter => exact ⟨hresult, hcalls, hafter⟩
  | refused _ hopen => exact absurd (allowed_of_open hopen) hillegal
  | done _ hlegal => exact absurd hlegal hillegal
  | cancelled _ hopen => exact absurd (allowed_of_open hopen) hillegal

theorem legal_ends (h : t.Came) (hlegal : t.before.1.state ∈ t.request.operation.allowed) :
    (∀ operation state, t.result ≠ .error (.invalidState operation state)) ∧
      ((∀ c ∈ t.calls, c.error? = none) →
        (∃ n, t.result = .ok n) ∧ t.after.1.phase = t.request.leads t.before.1.phase) := by
  cases h with
  | illegal hillegal => exact absurd hlegal hillegal
  | refused e _ _ _ hrefusal hresult =>
    refine ⟨by simp [hresult], fun hall => ?_⟩
    rw [List.findSome?_eq_none_iff.mpr hall] at hrefusal
    cases hrefusal
  | done n _ _ _ _ hresult hphase => exact ⟨by simp [hresult], fun _ => ⟨⟨n, hresult⟩, hphase⟩⟩
  | cancelled c _ hrequest hcalls _ hresult hphase =>
    rcases hresult with ⟨n, hresult⟩ | ⟨e, herror, hresult⟩
    · exact ⟨by simp [hresult], fun _ => ⟨⟨n, hresult⟩, by simp [hphase, hrequest, Request.leads]⟩⟩
    · refine ⟨fun operation state => ?_, fun hall => ?_⟩
      · rw [hresult]
        cases e <;> simp [Failure.atPath]
      · rw [hall c (by simp [hcalls])] at herror
        cases herror

theorem refused_ends (h : t.Came) (hbefore : t.before.1.phase ∈ phases)
    (hrequest : t.request ≠ .cancel) (hrefused : ∃ c ∈ t.calls, c.error? ≠ none) :
    (∃ e, t.result = .error (.store e)) ∧ t.after.1.phase = (.open, .pending) := by
  obtain ⟨c, hc, herror⟩ := hrefused
  cases h with
  | illegal _ _ hcalls => simp [hcalls] at hc
  | refused e hopen _ _ _ hresult hphase =>
    exact ⟨⟨e, hresult⟩, hphase.trans (eq_of_open hbefore hopen)⟩
  | done _ _ _ hcalls => exact absurd (hcalls c hc).2 herror
  | cancelled _ _ hcancel => exact absurd hcancel hrequest

theorem deletes_iff (h : t.Came) : (∃ c ∈ t.calls, c.call.isDelete) ↔
    t.request = .cancel ∧ t.before.1.state = .open := by
  have hnone : (∀ c ∈ t.calls, c.call.isAppend) → ¬∃ c ∈ t.calls, c.call.isDelete := by
    rintro happends ⟨c, hc, hdelete⟩
    have happend := happends c hc
    cases hcall : c.call <;> simp_all [Call.isAppend, Call.isDelete]
  cases h with
  | illegal hillegal _ hcalls =>
    exact iff_of_false (by simp [hcalls]) fun hcancel =>
      hillegal (allowed_of_open hcancel.2)
  | refused _ _ hrequest hcalls =>
    exact iff_of_false (hnone hcalls) fun hcancel => hrequest hcancel.1
  | done _ _ hrequest hcalls =>
    exact iff_of_false (hnone fun c hc => (hcalls c hc).1) fun hcancel => hrequest hcancel.1
  | cancelled c hopen hrequest hcalls hdelete =>
    refine iff_of_true ⟨c, by simp [hcalls], ?_⟩ ⟨hrequest, hopen⟩
    rw [hdelete]
    rfl

theorem cancelled_ends (h : t.Came) (hrequest : t.request = .cancel)
    (hopen : t.before.1.state = .open) :
    (∃ c, t.calls = [c] ∧ c.call = .delete t.before.1.key) ∧
      t.after.1.phase = (.cancelled, .cancelled) := by
  cases h with
  | illegal hillegal => exact absurd (allowed_of_open hopen) hillegal
  | refused _ _ hother => exact absurd hrequest hother
  | done _ _ hother => exact absurd hrequest hother
  | cancelled c _ _ hcalls hdelete _ hphase => exact ⟨⟨c, hcalls, hdelete⟩, hphase⟩

end Turn.Came

theorem start_phase {path key : Name} {size maxChunkSize : Number} {logger : Option Logger}
    {w : Writer} (hw : start path key size maxChunkSize logger = .ok w) :
    w.phase = (.open, .pending) := by
  rw [start] at hw
  cases hchunk : Append.chunkSize maxChunkSize with
  | ok chunk =>
    rw [hchunk] at hw
    cases hw
    rfl
  | error f =>
    rw [hchunk] at hw
    cases hw

/-- **Lifecycle.** Whatever calls are made on a new session, and whatever the store answers to what
the session asks of it, the run is orderly. -/
theorem run_lifecycle (b : Backend σ) {path key : Name} {size maxChunkSize : Number}
    {logger : Option Logger} {w : Writer}
    (hw : start path key size maxChunkSize logger = .ok w) (world : World (Traced σ))
    (qs : List Request) : w.phase = (.open, .pending) ∧ Orderly (history b qs w world) := by
  have hphase := start_phase hw
  have hmem : w.phase ∈ phases := by simp [hphase, phases]
  have hkeep : ∀ t : Turn σ, t.Came → t.before.1.phase ∈ phases → t.after.1.phase ∈ phases :=
    fun t hcame => hcame.phase_mem
  have hturn : ∀ t ∈ history b qs w world, t.Came ∧ t.before.1.phase ∈ phases :=
    kept_of_mem (P := (·.phase ∈ phases)) hkeep qs hmem
  refine ⟨hphase, {
    phases := fun t ht => hkeep t (hturn t ht).1 (hturn t ht).2
    outcome := pairwise_history (P := (·.phase ∈ phases)) hkeep
      (fun t hafter qs u hu hsettled => ?_) qs hmem
    closed := pairwise_history (P := (·.phase ∈ phases)) hkeep
      (fun t _ qs u hu hclosed => ?_) qs hmem
    appends := pairwise_history (P := (·.phase ∈ phases)) hkeep
      (fun t _ qs u hu hover => ?_) qs hmem
    illegal := fun t ht => (hturn t ht).1.illegal_ends
    legal := fun t ht => (hturn t ht).1.legal_ends
    unflushed := fun t ht hrequest => (hturn t ht).1.refused_ends (hturn t ht).2 ?_
    deletes := fun t ht => (hturn t ht).1.deletes_iff
    cancelled := fun t ht => (hturn t ht).1.cancelled_ends
    once := countP_isDelete_le b qs w world }⟩
  · obtain ⟨hcame, hbefore, heq⟩ := kept_of_mem
      (P := fun w => w.phase ∈ phases ∧ w.outcome = t.after.1.outcome)
      (fun u hcame ⟨hbefore, heq⟩ =>
        ⟨hcame.phase_mem hbefore, (hcame.outcome_eq hbefore (heq ▸ hsettled)).trans heq⟩)
      qs ⟨hafter, rfl⟩ u hu
    exact (hcame.outcome_eq hbefore (heq ▸ hsettled)).trans heq
  · have hstays : ∀ u : Turn σ, u.Came → u.before.1 = t.after.1 → u.after.1 = t.after.1 :=
      fun u hcame heq => by rw [hcame.eq_of_closed (heq ▸ hclosed), heq]
    obtain ⟨hcame, heq⟩ := kept_of_mem (P := (· = t.after.1)) hstays qs rfl u hu
    exact hstays u hcame heq
  · simp [calls_eq_nil qs hover u hu]
  · rintro hcancel
    rcases hrequest with heq | heq <;> simp [heq] at hcancel

/-- A commit and a cancel that the store refuses, and calls on what is left of the session. -/
theorem run_lifecycle_refused :
    let b := (Memory.backend {}).refusing
    let w : Writer :=
      { path := ['/', 'k'], key := ['k'], chunk := 2, chunk_pos := Nat.succ_pos 1
        size := .ofNat 0 }
    let timeout : StoreError := .broken "timeout"
    let world : World (Traced (Refusing Memory)) := .fresh
      ⟨⟨Memory.write {} default ['k'] [] .append, [none, some timeout, some timeout]⟩, []⟩
    let turns := history b [.write [1, 2, 3], .commit, .cancel, .write [4], .close, .close] w world
    start ['/', 'k'] ['k'] (.ofNat 0) (.ofNat 2) = .ok w ∧
    turns.map (·.result) = [.ok 3, .error (.store timeout), .error (.store timeout),
      .error (.invalidState .write .cancelled), .ok 0, .error (.invalidState .close .closed)] ∧
    turns.map (·.after.1.phase) = [(.open, .pending), (.open, .pending), (.cancelled, .cancelled),
      (.cancelled, .cancelled), (.closed, .cancelled), (.closed, .cancelled)] ∧
    w.phase = (.open, .pending) ∧ Orderly turns := by
  intro b w timeout world turns
  have hw : start ['/', 'k'] ['k'] (.ofNat 0) (.ofNat 2) = .ok w := rfl
  exact ⟨hw, by decide +kernel, by decide +kernel, run_lifecycle b hw world _⟩

end Writer
end BlobTree
