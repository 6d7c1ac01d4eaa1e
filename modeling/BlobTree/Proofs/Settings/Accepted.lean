import BlobTree.Deployment
import BlobTree.Proofs.FileTree.Within
import BlobTree.Proofs.Settings.WellFormed

/-!
# BlobTree.Proofs.Settings.Accepted

Settings that have been accepted can be put to use. What the check asks of the fields as a whole is
what is needed to choose credentials from the checked account, and a size that it lets through can
be capped at what a store takes.

* `Credentials.From`: the credentials that an account gives, in order of precedence;
  `WellFormed.gives_credentials`: settings for a remote store give some.
* `Within.raised`: an action fails with what its scope raises or with what the store says.
* `accepted_usable`: the credentials, the tree and its writers.
-/

namespace BlobTree

/-- The credentials that an account gives: of its connection string, its name and key, and its
address the first that is there. -/
inductive Credentials.From (a : Account) : Credentials → Prop where
  | connectionString {text : String} : a.connectionString = some text →
      Credentials.From a (.connectionString text)
  | sharedKey {name key : String} : a.connectionString = none → a.accountName = some name →
      a.accountKey = some key → Credentials.From a (.sharedKey name key (some a.realm))
  | accountUrl {url : String} : a.connectionString = none →
      (a.accountName = none ∨ a.accountKey = none) → a.accountUrl = some url →
      Credentials.From a (.accountUrl url)

namespace Settings

/-- A part of a well-formed account counts as given if it is there. -/
theorem given_of_ne {s? : Option String} (h : s? ≠ some "") : Credentials.given s? = s? := by
  cases s? with
  | none => rfl
  | some s => simpa [Credentials.given, Option.filter] using h

theorem credentials_of_account {s : Settings} {a : Account} (ha : s.account = some a)
    (h : a.WellFormed) (hreaches : a.Reaches) :
    ∃ c, s.credentials = .ok c ∧ Credentials.From a c := by
  have haddress : a.accountUrl ≠ some "" := by
    intro hempty
    exact absurd (h.accountUrl _ hempty) (by decide)
  rw [credentials, ha]
  simp only [Credentials.ofFields, given_of_ne h.connectionString,
    given_of_ne h.accountName, given_of_ne h.accountKey, given_of_ne haddress]
  cases htext : a.connectionString with
  | some text => exact ⟨_, rfl, .connectionString htext⟩
  | none =>
    cases haccount : a.accountName with
    | none =>
      obtain ⟨url, haddress⟩ : ∃ url, a.accountUrl = some url := by
        simpa [Account.Reaches, htext, haccount, Option.isSome_iff_exists] using hreaches
      rw [haddress]
      exact ⟨_, rfl, .accountUrl htext (.inl haccount) haddress⟩
    | some name =>
      cases hsecret : a.accountKey with
      | some key => exact ⟨_, rfl, .sharedKey htext haccount hsecret⟩
      | none =>
        obtain ⟨url, haddress⟩ : ∃ url, a.accountUrl = some url := by
          simpa [Account.Reaches, htext, hsecret, Option.isSome_iff_exists] using hreaches
        rw [haddress]
        exact ⟨_, rfl, .accountUrl htext (.inr hsecret) haddress⟩

theorem WellFormed.gives_credentials {s : Settings} (h : s.WellFormed) (hazure : s.store = .azure) :
    ∃ a c, s.account = some a ∧ s.credentials = .ok c ∧ Credentials.From a c := by
  obtain ⟨a, ha, hreaches⟩ := h.credentials hazure
  obtain ⟨c, hc, hfrom⟩ := credentials_of_account ha (h.account a ha) hreaches
  exact ⟨a, c, ha, hc, hfrom⟩

end Settings

namespace FileTree

open BlobTree.Action

variable {σ α β : Type} {b : Backend σ} {S : Scope σ}

/-- An action fails with a failure that may be raised or with one of the store. -/
def Raises (p : Failure → Prop) (x : Action σ α) : Prop :=
  ∀ w f, (x.exec w).1 = .error (.failed f) → p f ∨ ∃ e, f = .store e

theorem raises_of_gives {p : Failure → Prop} {x : Action σ α}
    (h : ∀ s, ∃ r s', x.Gives s r s' ∧ ∀ f, r = .error (.failed f) → p f ∨ ∃ e, f = .store e) :
    Raises p x := by
  intro w f hf
  obtain ⟨r, s', hgives, hr⟩ := h w.store
  rw [hgives.exec.1] at hf
  exact hr f hf

theorem Raises.bind {p : Failure → Prop} {x : Action σ α} {f : α → Action σ β} (hx : Raises p x)
    (hf : ∀ a w w', x.exec w = (.ok a, w') → Raises p (f a)) : Raises p (x >>= f) := by
  intro w e he
  rcases hrun : x.exec w with ⟨stop | a, w'⟩
  · rw [exec_bind_error hrun] at he
    exact hx w e (by rw [hrun]; exact congrArg Except.error (Except.error.inj he))
  · rw [exec_bind_ok hrun] at he
    exact hf a w w' hrun w' e he

theorem raises_call {p : Failure → Prop} (c : Call) : Raises p (call b c) := by
  refine raises_of_gives fun s => ⟨_, _, gives_call b c s, ?_⟩
  intro f hf
  cases hreply : (b.answer s c).1 with
  | ok a =>
    rw [hreply] at hf
    cases hf
  | error e =>
    rw [hreply] at hf
    cases hf
    exact .inr ⟨e, rfl⟩

/-- Whatever the store answers, an action fails with what its scope raises or with what the store
says. -/
theorem Within.raised (hS : S.Fits b) (hvisits : ∀ x, S.visits x → Raises S.raises x)
    {x : Action σ α} {Q : α → Prop} (hx : Within b S x Q) : Raises S.raises x := by
  induction hx with
  | @pure _ _ a _ => exact raises_of_gives fun s => ⟨_, s, gives_pure a s, by simp⟩
  | @fail _ _ f hf =>
    refine raises_of_gives fun s => ⟨_, s, gives_fail f s, ?_⟩
    rintro _ ⟨⟩
    exact .inl hf
  | unfinished => exact raises_of_gives fun s => ⟨_, s, gives_unfinished s, by simp⟩
  | log l level fields message =>
    exact raises_of_gives fun s => ⟨_, s, gives_log l level fields message s, by simp⟩
  | plain => exact raises_call _
  | page => exact raises_call _
  | @seek c path _ _ hpath =>
    refine raises_of_gives fun s => ⟨_, _, callAt_gives b path c s, ?_⟩
    intro f hf
    cases hreply : (b.answer s c).1 with
    | ok a =>
      rw [hreply] at hf
      cases hf
    | error e =>
      rw [hreply] at hf
      cases hf
      cases e with
      | notFound key => exact .inl hpath
      | _ => exact .inr ⟨_, rfl⟩
  | @properties key =>
    refine raises_of_gives fun s => ⟨_, _, properties_gives b key s, ?_⟩
    intro f hf
    cases hreply : (b.answer s (.properties key)).1 with
    | ok p =>
      rw [hreply] at hf
      cases hf
    | error e =>
      rw [hreply] at hf
      cases e <;> cases hf
      all_goals exact .inr ⟨_, rfl⟩
  | visit h => exact hvisits _ h
  | bind hx _ ihx ihf => exact ihx.bind fun a w w' hrun => ihf a (hx.yields hS hrun)
  | measured name labels _ ih =>
    intro w f hf
    rw [(exec_measured_eq name _ labels w).1] at hf
    exact ih w f hf
  | @recover _ _ x g _ _ hx _ _ hfail ihx ihok ihpath =>
    intro w f hf
    rcases hrun : x.exec w with ⟨(e | _) | a, w'⟩
    · rw [exec_attempt_bind_failed hrun] at hf
      rcases e.pathNotFound_or with ⟨path, rfl⟩ | hother
      · exact ihpath path w' f hf
      · rw [hfail e hother] at hf
        cases hf
        exact ihx w f (by rw [hrun])
    · rw [exec_attempt_bind_unfinished hrun] at hf
      cases hf
    · rw [exec_attempt_bind_ok hrun] at hf
      exact ihok a (hx.yields hS hrun) w' f hf

/-- A writer of a tree whose chunk size is a positive whole number is never refused for it. -/
theorem writer_sized {t : FileTree} {n : Nat} (hsize : t.maxChunkSize.toPositive? = some n)
    (path : Name) (append : Bool) (w : World σ) (size : Number) :
    ((t.writer b path append).exec w).1 ≠ .error (.failed (.badChunkSize size)) := by
  let S : Scope σ := {
    near := fun _ => True
    starts := fun _ => True
    holds := fun _ _ => True
    raises := fun f => f ≠ .badChunkSize size
    stops := True
    visits := fun _ => False }
  have hwithin : Within b S (t.writer b path append) fun w => S.near w.key := by
    refine writer_within ?_ (fun _ => trivial) ?_
    · rintro f hf - rfl
      cases hf
    · intro hnone
      rw [hsize] at hnone
      cases hnone
  intro h
  have hvisits : ∀ x, S.visits x → Raises S.raises x := fun x hx => hx.elim
  rcases hwithin.raised (fun _ _ _ _ _ _ _ => trivial) hvisits w _ h with h | ⟨e, h⟩
  · exact h rfl
  · cases h

end FileTree

namespace Settings

open BlobTree.Action

variable {σ : Type}

/-- A tree is ready as soon as the store has not refused to create the container. -/
theorem deploy_ends (s : Settings) (b : Backend σ) (w : World σ) :
    (s.createContainer ∧ ∃ e, (b.answer w.store .createContainer).1 = .error e ∧
      ((s.deploy b).exec w).1 = .error (.failed (.store e))) ∨
    ((s.deploy b).exec w).1 = .ok (s.tree b) := by
  have hconfigure : ∀ store, (s.configure : Action σ Unit).Gives store (.ok ()) store :=
    fun _ _ hw => ⟨_, rfl, hw⟩
  have hready : ∀ store, (do
      log s.treeLogger .info [("rootDirectory", .text s.rootDirectory)] "driver ready"
      return s.tree b : Action σ FileTree).Gives store (.ok (s.tree b)) store :=
    fun store => (gives_log _ _ _ _ store).bind (gives_pure _ store)
  have hconnect : (s.deploy b).exec w = (s.configure >>= fun _ => s.connect b).exec w := rfl
  rw [hconnect, connect]
  by_cases hcreate : s.createContainer
  · rw [if_pos hcreate]
    have hcall := gives_call b .createContainer w.store
    cases hreply : (b.answer w.store .createContainer).1 with
    | ok a =>
      rw [hreply] at hcall
      exact .inr ((hconfigure _).bind (hcall.bind (hready _))).exec.1
    | error e =>
      rw [hreply] at hcall
      exact .inl ⟨hcreate, e, rfl, ((hconfigure _).bind hcall.bind_error).exec.1⟩
  · rw [if_neg hcreate]
    exact .inr ((hconfigure _).bind (hready _)).exec.1

/-- Accepted settings can be put to use: those for a remote store give credentials, and over every
store that takes a positive number of bytes at a time the tree appends chunks that are neither
larger than the settings ask for nor than the store takes, so that no writer is refused for it. -/
theorem accepted_usable {v : Value} {s : Settings} (h : check v = .ok s) :
    (s.store = .azure →
      ∃ a c, s.account = some a ∧ s.credentials = .ok c ∧ Credentials.From a c) ∧
    ∀ {σ : Type} (b : Backend σ) (limit : Nat), b.maxAppendSize.toPositive? = some limit →
      (s.tree b).maxChunkSize = .ofNat (min s.maxChunkSize limit) ∧
      0 < min s.maxChunkSize limit ∧ min s.maxChunkSize limit ≤ maxChunk ∧
      ∀ w, ((s.createContainer ∧ ∃ e, (b.answer w.store .createContainer).1 = .error e ∧
          ((s.deploy b).exec w).1 = .error (.failed (.store e))) ∨
        ((s.deploy b).exec w).1 = .ok (s.tree b)) ∧
        ∀ path append size,
          (((s.tree b).writer b path append).exec w).1 ≠ .error (.failed (.badChunkSize size)) := by
  have hwell := wellFormed_of_check h
  refine ⟨hwell.gives_credentials, ?_⟩
  intro σ b limit hlimit
  have hpos := hwell.size_pos
  have hmax := hwell.size_le
  have hlimitPos := Number.toPositive?_pos hlimit
  have hn : (s.tree b).maxChunkSize = .ofNat (min s.maxChunkSize limit) := by
    show (Number.ofNat s.maxChunkSize).min b.maxAppendSize = _
    rw [Number.eq_ofNat_of_toPositive? hlimit]
    exact Number.min_ofNat _ _
  have hpositive : 0 < min s.maxChunkSize limit := by omega
  refine ⟨hn, hpositive, by omega, ?_⟩
  intro w
  refine ⟨deploy_ends s b w, ?_⟩
  intro path append size
  refine FileTree.writer_sized (n := min s.maxChunkSize limit) ?_ path append w size
  rw [hn, Number.toPositive?_ofNat, if_pos hpositive]

/-- An account with its name and key, a size above what the store takes, and a writer on
the tree that comes of it. -/
theorem accepted_usable_capped :
    let v : Value := .record [("container", .text "c"), ("maxChunkSize", .number (.ofNat 8)),
      ("azure", .record [("accountName", .text "n"), ("accountKey", .text "k")])]
    let b := Memory.backend { maxAppendSize := .ofNat 5 }
    ∃ s, check v = .ok s ∧ s.store = .azure ∧
      s.credentials = .ok (.sharedKey "n" "k" (some "core.windows.net")) ∧
      (∃ a c, s.account = some a ∧ s.credentials = .ok c ∧ Credentials.From a c) ∧
      (s.tree b).maxChunkSize = .ofNat 5 ∧
      (((s.tree b).writer b "/a".toList false).exec (.fresh default)).1 ≠
        .error (.failed (.badChunkSize (.ofNat 5))) := by
  intro v b
  let account : Account := { accountName := some "n", accountKey := some "k" }
  let s : Settings := { container := "c", maxChunkSize := 8, account := some account }
  have hcheck : check v = .ok s := by decide +kernel
  have husable := accepted_usable hcheck
  refine ⟨s, hcheck, rfl, by decide +kernel, husable.1 rfl, ?_⟩
  obtain ⟨hsize, -, -, hworld⟩ := husable.2 b 5 rfl
  exact ⟨hsize, (hworld (.fresh default)).2 _ _ _⟩

end Settings
end BlobTree
