import BlobTree.Proofs.Settings.Checked

/-!
# BlobTree.Proofs.Settings.WellFormed

Accepted settings, said without the check. The check accepts a record exactly if it accepts each
field and the settings as a whole say how to reach the store.

* `Settings.Parts`, `Account.Parts`: what each field was checked to; `checkFields_ok`,
  `checkAccount_ok`: the fields are accepted exactly if each is.
* `Settings.WellFormed`: what can be said of settings by themselves; `wellFormed_of_check`: it holds
  of all that were accepted, and `Parts.check`: such settings are accepted from their parts.
-/

namespace BlobTree

open Checked

variable {fields : List (String × Value)} {name : String} {path : List String}

/-- The parts of an account and the fields that they were checked from. -/
structure Account.Parts (fields : List (String × Value)) (a : Account) : Prop where
  connectionString : Checked.optional (nonEmpty ["azure", "connectionString"])
    (Value.field fields "connectionString") = .ok a.connectionString
  accountName : Checked.optional (nonEmpty ["azure", "accountName"])
    (Value.field fields "accountName") = .ok a.accountName
  accountKey : Checked.optional (nonEmpty ["azure", "accountKey"])
    (Value.field fields "accountKey") = .ok a.accountKey
  realm : orElse "core.windows.net" (nonEmpty ["azure", "realm"])
    (Value.field fields "realm") = .ok a.realm
  accountUrl : Checked.optional (url ["azure", "accountUrl"])
    (Value.field fields "accountUrl") = .ok a.accountUrl

/-- The parts of settings and the fields that they were checked from. -/
structure Settings.Parts (fields : List (String × Value)) (s : Settings) : Prop where
  store : orElse .azure (named ["backend"] (StoreKind.all.map StoreKind.name) StoreKind.ofName?)
    (Value.field fields "backend") = .ok s.store
  container : nonEmpty ["container"] (Value.field fields "container") = .ok s.container
  rootDirectory : orElse "" (text ["rootDirectory"]) (Value.field fields "rootDirectory") =
    .ok s.rootDirectory
  createContainer : orElse true (flag ["createContainer"]) (Value.field fields "createContainer") =
    .ok s.createContainer
  maxChunkSize : orElse Settings.maxChunk (chunkSize ["maxChunkSize"])
    (Value.field fields "maxChunkSize") = .ok s.maxChunkSize
  account : Checked.optional Settings.checkAccount (Value.field fields "azure") = .ok s.account
  logging : orElse {} Settings.checkLogging (Value.field fields "logging") = .ok s.logging

/-- Nothing in an account is empty, and its address is one. -/
structure Account.WellFormed (a : Account) : Prop where
  connectionString : a.connectionString ≠ some ""
  accountName : a.accountName ≠ some ""
  accountKey : a.accountKey ≠ some ""
  realm : a.realm ≠ ""
  accountUrl : ∀ url, a.accountUrl = some url → Url.isValid url.toList

/-- An account says how to reach the store. -/
def Account.Reaches (a : Account) : Prop :=
  a.connectionString.isSome ∨ (a.accountName.isSome ∧ a.accountKey.isSome) ∨ a.accountUrl.isSome

structure Settings.WellFormed (s : Settings) : Prop where
  container : s.container ≠ ""
  size_pos : 0 < s.maxChunkSize
  size_le : s.maxChunkSize ≤ Settings.maxChunk
  account : ∀ a, s.account = some a → a.WellFormed
  credentials : s.store = .azure → ∃ a, s.account = some a ∧ a.Reaches

namespace Settings

theorem text_ok {v : Value} {s : String} (h : text path v = .ok s) : v = .text s := by
  unfold text at h
  split at h <;> cases h
  rfl

theorem nonEmpty_ok {v : Value} {s : String} (h : nonEmpty path v = .ok s) :
    v = .text s ∧ s ≠ "" := by
  obtain ⟨s', htext, hs⟩ := bind_ok h
  split at hs
  · cases hs
  · next hempty =>
    cases hs
    exact ⟨text_ok htext, by simpa using hempty⟩

theorem url_ok {v : Value} {s : String} (h : url path v = .ok s) :
    v = .text s ∧ Url.isValid s.toList := by
  obtain ⟨s', htext, hs⟩ := bind_ok h
  split at hs
  · next hvalid =>
    cases hs
    exact ⟨text_ok htext, hvalid⟩
  · cases hs

theorem nonempty_of_url {v : Value} {s : String} (h : url path v = .ok s) :
    v = .text s ∧ s ≠ "" := by
  obtain ⟨htext, hvalid⟩ := url_ok h
  refine ⟨htext, ?_⟩
  rintro rfl
  exact absurd hvalid (by decide)

theorem nonEmpty_text {raw : String} (h : raw ≠ "") :
    nonEmpty path (.text raw) = .ok raw := by
  have hraw : raw.isEmpty = false := by simpa using h
  simp [nonEmpty, text, Except.bind, hraw]

theorem url_text {raw : String} (h : Url.isValid raw.toList) :
    url path (.text raw) = .ok raw := by
  simp [url, text, Except.bind, h]

/-- A text that may be missing passes a check that passes it if it is there. -/
theorem optional_texts {check : Value → Checked String} {text? : Option String}
    (hcheck : ∀ raw, text? = some raw → check (.text raw) = .ok raw) :
    Checked.optional check ((text?.map Value.text).getD .absent) = .ok text? := by
  cases text? with
  | none => rfl
  | some raw =>
    show (check (.text raw)).map some = _
    rw [hcheck raw rfl]
    rfl

theorem chunkSize_ofNat {size : Nat} (hpos : 0 < size) (hmax : size ≤ maxChunk) :
    chunkSize path (.number (.ofNat size)) = .ok size := by
  have hflaws : chunkFlaws (.ofNat size) = [] := chunkFlaws_nil.mpr ⟨_, hpos, hmax, rfl⟩
  rw [chunkSize, if_neg (by simp [Number.ofNat]), hflaws]
  simp [hpos]

theorem named_store (kind : StoreKind) (options : List String) :
    named path options StoreKind.ofName? (.text kind.name) = .ok kind := by
  cases kind <;> rfl

theorem named_level (level : Level) (options : List String) :
    named path options Level.ofName? (.text level.name) = .ok level := by
  cases level <;> rfl

theorem checkAccount_ok {a : Account} :
    checkAccount (.record fields) = .ok a ↔ a.Parts fields := by
  constructor
  · intro h
    obtain ⟨⟨connectionString, accountName, accountKey, realm, accountUrl⟩, hall, rfl⟩ := map_ok h
    obtain ⟨hconnection, hrest⟩ := both_ok hall
    obtain ⟨hname, hrest⟩ := both_ok hrest
    obtain ⟨hkey, hrest⟩ := both_ok hrest
    obtain ⟨hrealm, hurl⟩ := both_ok hrest
    exact ⟨hconnection, hname, hkey, hrealm, hurl⟩
  · rintro ⟨hconnection, hname, hkey, hrealm, hurl⟩
    simp only [checkAccount, record, Except.bind, hconnection, hname, hkey, hrealm, hurl]
    rfl

theorem checkFields_ok {s : Settings} : checkFields fields = .ok s ↔ s.Parts fields := by
  constructor
  · intro h
    obtain ⟨⟨store, container, root, create, size, account, logging⟩, hall, rfl⟩ := map_ok h
    obtain ⟨hstore, hrest⟩ := both_ok hall
    obtain ⟨hcontainer, hrest⟩ := both_ok hrest
    obtain ⟨hroot, hrest⟩ := both_ok hrest
    obtain ⟨hcreate, hrest⟩ := both_ok hrest
    obtain ⟨hsize, hrest⟩ := both_ok hrest
    obtain ⟨haccount, hlogging⟩ := both_ok hrest
    exact ⟨hstore, hcontainer, hroot, hcreate, hsize, haccount, hlogging⟩
  · rintro ⟨hstore, hcontainer, hroot, hcreate, hsize, haccount, hlogging⟩
    simp only [checkFields, hstore, hcontainer, hroot, hcreate, hsize, haccount, hlogging]
    rfl

theorem check_ok {v : Value} {s : Settings} (h : check v = .ok s) :
    ∃ fields, s.Parts fields ∧ overallIssues fields = [] := by
  obtain ⟨fields, -, hs⟩ := bind_ok h
  cases hfields : checkFields fields with
  | error is =>
    rw [hfields] at hs
    dsimp only at hs
    split at hs <;> cases hs
  | ok s' =>
    rw [hfields] at hs
    dsimp only at hs
    split at hs
    · next hoverall =>
      cases hs
      exact ⟨fields, checkFields_ok.mp hfields, hoverall⟩
    · cases hs

theorem chunkSize_ok {v : Value} {size : Nat}
    (h : Checked.orElse maxChunk (chunkSize path) v = .ok size) : 0 < size ∧ size ≤ maxChunk := by
  unfold Checked.orElse at h
  split at h
  · cases h
    decide
  · unfold chunkSize at h
    split at h
    · split at h
      · cases h
      · split at h
        · next n _ size' hflaws hsize =>
          cases h
          obtain ⟨k, hpos, hmax, rfl⟩ := chunkFlaws_nil.mp hflaws
          rw [Number.toPositive?_ofNat, if_pos hpos] at hsize
          cases hsize
          exact ⟨hpos, hmax⟩
        · cases h
    · cases h

/-- What a check of a text that may be missing leads to: nothing if it is missing, else a text that
is not empty. -/
theorem optional_ok {check : Value → Checked String} {s? : Option String}
    (hcheck : ∀ v s, check v = .ok s → v = .text s ∧ s ≠ "")
    (h : Checked.optional check (Value.field fields name) = .ok s?) :
    hasText fields name = s?.isSome ∧ s? ≠ some "" := by
  unfold hasText
  unfold Checked.optional at h
  split at h
  · next habsent =>
    cases h
    rw [habsent]
    exact ⟨rfl, by simp⟩
  · obtain ⟨s, hs, rfl⟩ := map_ok h
    obtain ⟨htext, hempty⟩ := hcheck _ _ hs
    rw [htext]
    exact ⟨by simp [hempty], by simpa using hempty⟩

theorem hasCredentials_iff {a : Account} (h : a.Parts fields) :
    hasCredentials (.record fields) ↔ a.Reaches := by
  rw [hasCredentials, (optional_ok (fun _ _ => nonEmpty_ok) h.connectionString).1,
    (optional_ok (fun _ _ => nonEmpty_ok) h.accountName).1,
    (optional_ok (fun _ _ => nonEmpty_ok) h.accountKey).1,
    (optional_ok (fun _ _ => nonempty_of_url) h.accountUrl).1, Account.Reaches]
  simp only [Bool.or_eq_true, Bool.and_eq_true, or_assoc]

end Settings

theorem Account.Parts.wellFormed {a : Account} (h : a.Parts fields) : a.WellFormed where
  connectionString := (Settings.optional_ok (fun _ _ => Settings.nonEmpty_ok) h.connectionString).2
  accountName := (Settings.optional_ok (fun _ _ => Settings.nonEmpty_ok) h.accountName).2
  accountKey := (Settings.optional_ok (fun _ _ => Settings.nonEmpty_ok) h.accountKey).2
  realm := by
    have hrealm := h.realm
    unfold Checked.orElse at hrealm
    split at hrealm
    · rw [← Except.ok.inj hrealm]
      decide
    · exact (Settings.nonEmpty_ok hrealm).2
  accountUrl := by
    intro address haddress
    have hurl := h.accountUrl
    unfold Checked.optional at hurl
    split at hurl
    · rw [← Except.ok.inj hurl] at haddress
      cases haddress
    · obtain ⟨s, hs, hsome⟩ := map_ok hurl
      rw [haddress] at hsome
      cases hsome
      exact (Settings.url_ok hs).2

namespace Settings

theorem Parts.asksRemote_iff {s : Settings} (h : s.Parts fields) :
    asksRemote fields ↔ s.store = .azure := by
  have hstore := h.store
  unfold asksRemote
  unfold Checked.orElse at hstore
  split at hstore
  · next habsent =>
    rw [habsent]
    simpa using (Except.ok.inj hstore).symm
  · unfold named at hstore
    split at hstore
    · next raw htext =>
      split at hstore
      · next kind hname =>
        cases hstore
        have hraw : s.store.name = raw := by simpa using List.find?_some hname
        rw [htext, ← hraw]
        cases s.store <;> decide
      · cases hstore
    · cases hstore

/-- The fields of an account that was accepted. Bytes are one without a field. -/
theorem account_parts {v : Value} {a : Account} (h : checkAccount v = .ok a) :
    ∃ fields, a.Parts fields ∧ hasCredentials v = hasCredentials (.record fields) := by
  obtain ⟨fields, hrecord, -⟩ := bind_ok h
  cases v with
  | record fields => exact ⟨fields, checkAccount_ok.mp h, rfl⟩
  | bytes => exact ⟨[], checkAccount_ok.mp h, rfl⟩
  | _ => cases hrecord

theorem Parts.account_cases {s : Settings} (h : s.Parts fields) :
    (s.account = none ∧ Value.field fields "azure" = .absent) ∨
      ∃ a afields, s.account = some a ∧ a.Parts afields ∧
        hasCredentials (Value.field fields "azure") = hasCredentials (.record afields) := by
  have haccount := h.account
  unfold Checked.optional at haccount
  split at haccount
  · next habsent => exact .inl ⟨(Except.ok.inj haccount).symm, habsent⟩
  · obtain ⟨a, ha, hsome⟩ := map_ok haccount
    obtain ⟨afields, hparts, hgiven⟩ := account_parts ha
    exact .inr ⟨a, afields, hsome.symm, hparts, hgiven⟩

/-- The settings as a whole are in order exactly if those for a remote store have an account that
says how to reach it. -/
theorem Parts.overallIssues_iff {s : Settings} (h : s.Parts fields) :
    overallIssues fields = [] ↔ (s.store = .azure → ∃ a, s.account = some a ∧ a.Reaches) := by
  have hcredentials : hasCredentials (Value.field fields "azure") ↔
      ∃ a, s.account = some a ∧ a.Reaches := by
    rcases h.account_cases with ⟨hnone, habsent⟩ | ⟨a, afields, ha, hparts, hgiven⟩
    · rw [habsent, hnone]
      simp [hasCredentials]
    · rw [hgiven, hasCredentials_iff hparts, ha]
      simp
  rw [← hcredentials, ← h.asksRemote_iff, overallIssues]
  cases asksRemote fields <;> cases hasCredentials (Value.field fields "azure") <;> simp

theorem wellFormed_of_check {v : Value} {s : Settings} (h : check v = .ok s) : s.WellFormed := by
  obtain ⟨fields, hparts, hoverall⟩ := check_ok h
  obtain ⟨hpos, hmax⟩ := chunkSize_ok hparts.maxChunkSize
  refine {
    container := (nonEmpty_ok hparts.container).2
    size_pos := hpos
    size_le := hmax
    account := ?_
    credentials := hparts.overallIssues_iff.mp hoverall }
  intro a ha
  rcases hparts.account_cases with ⟨hnone, -⟩ | ⟨a', afields, hsome, haccount, -⟩
  · rw [hnone] at ha
    cases ha
  · rw [hsome] at ha
    cases ha
    exact haccount.wellFormed

theorem Parts.check {s : Settings} (hparts : s.Parts fields) (hwell : s.WellFormed) :
    Settings.check (.record fields) = .ok s := by
  simp only [Settings.check, record, Except.bind, checkFields_ok.mpr hparts,
    hparts.overallIssues_iff.mpr hwell.credentials]

end Settings
end BlobTree
