import BlobTree.Proofs.Number.Numeral
import BlobTree.Proofs.Settings.Normal
import BlobTree.Proofs.Settings.Reported

/-!
# BlobTree.Proofs.Settings.Expressed

Accepted settings can be written down in variables. Texts stand as they are, truth values as `true`
or `false` and the chunk size in decimal; the variables of an account are set as far as it has the
fields. An environment with these variables, whatever else it sets, gives the same settings again.

* `Settings.texts`: the variables of settings and their texts; `Environment.Expresses`: an
  environment has them.
* `parts_of_expresses`: each field of such an environment is checked to the part that was written.
* `ofEnvironment_expressed`: so the settings come back.
-/

namespace BlobTree

/-- The variables for all settings, each with the text that stands for its part of these. -/
def Settings.texts (s : Settings) : List (String × Option String) :=
  [("BLOBVFS_BACKEND", some s.store.name), ("AZURE_STORAGE_CONTAINER", some s.container),
    ("BLOBVFS_ROOT_DIRECTORY", some s.rootDirectory),
    ("BLOBVFS_CREATE_CONTAINER", some (toString s.createContainer)),
    ("BLOBVFS_MAX_CHUNK_SIZE", some (toString s.maxChunkSize)),
    ("AZURE_STORAGE_CONNECTION_STRING", s.account.bind Account.connectionString),
    ("AZURE_STORAGE_ACCOUNT", s.account.bind Account.accountName),
    ("AZURE_STORAGE_KEY", s.account.bind Account.accountKey),
    ("AZURE_STORAGE_REALM", s.account.map Account.realm),
    ("AZURE_STORAGE_ACCOUNT_URL", s.account.bind Account.accountUrl),
    ("LOG_LEVEL", some s.logging.level.name), ("LOG_PRETTY", some (toString s.logging.pretty))]

/-- The variables that stand for settings, and no others. -/
def Settings.environment (s : Settings) : Environment :=
  s.texts.filterMap fun (name, text?) => text?.map (name, ·)

/-- Each variable that stands for a part of the settings has its text, or is not set if the part is
not there. -/
def Environment.Expresses (env : Environment) (s : Settings) : Prop :=
  ∀ name text?, (name, text?) ∈ s.texts → env.get? name = text?

namespace Environment

variable {env : Environment} {name : String} {text? : Option String} {s : Settings}

/-- By induction on the variables; only the one with the name is found under it. -/
theorem get?_filterMap {texts : List (String × Option String)}
    (hnames : (texts.map (·.1)).Nodup) (h : (name, text?) ∈ texts) :
    get? (texts.filterMap fun (name, text?) => text?.map (name, ·)) name = text? := by
  induction texts with
  | nil => cases h
  | cons entry rest ih =>
    obtain ⟨name', text?'⟩ := entry
    obtain ⟨hfirst, hrest⟩ := List.nodup_cons.mp hnames
    rcases List.mem_cons.mp h with hentry | hmem
    · cases hentry
      cases text? with
      | some raw => simp [get?]
      | none =>
        simp only [get?, List.filterMap_cons, Option.map_none, Option.map_eq_none_iff,
          List.find?_eq_none, List.mem_filterMap, Option.map_eq_some_iff]
        rintro _ ⟨⟨name', text?'⟩, hmem, raw, rfl, rfl⟩ hname
        refine hfirst (List.mem_map.mpr ⟨_, hmem, ?_⟩)
        simpa using hname
    · have hne : name' ≠ name := by
        rintro rfl
        exact hfirst (List.mem_map.mpr ⟨_, hmem, rfl⟩)
      rw [← ih hrest hmem]
      cases text?' <;> simp [get?, hne]

theorem environment_expresses (s : Settings) : s.environment.Expresses s := by
  intro name text? h
  refine get?_filterMap ?_ h
  show ["BLOBVFS_BACKEND", "AZURE_STORAGE_CONTAINER", "BLOBVFS_ROOT_DIRECTORY",
    "BLOBVFS_CREATE_CONTAINER", "BLOBVFS_MAX_CHUNK_SIZE", "AZURE_STORAGE_CONNECTION_STRING",
    "AZURE_STORAGE_ACCOUNT", "AZURE_STORAGE_KEY", "AZURE_STORAGE_REALM",
    "AZURE_STORAGE_ACCOUNT_URL", "LOG_LEVEL", "LOG_PRETTY"].Nodup
  decide

theorem text?_of_get? (h : env.get? name = text?) (hne : text? ≠ some "") :
    env.text? name = text? := by
  cases text? with
  | none => simp [Environment.text?, h]
  | some raw => simpa [Environment.text?, h, Option.filter] using hne

theorem flag?_of_get? {b : Bool} (h : env.get? name = some (toString b)) :
    env.flag? name = .ok (some b) := by
  have htext : env.text? name = some (toString b) :=
    text?_of_get? h (by cases b <;> decide)
  rw [flag?, htext]
  cases b <;> rfl

theorem integer?_of_get? {n : Nat} (h : env.get? name = some (toString n))
    (hn : n ≤ Number.exactBound) : env.integer? name = .ok (some (.ofNat n)) := by
  have htext : env.text? name = some (toString n) := text?_of_get? h (by simp)
  simp only [integer?, htext, Number.ofText_toString hn, Number.toInt?_ofNat, Option.isSome_some,
    if_true]

theorem given_of_get? (h : env.get? name = text?) (hne : text? ≠ some "") :
    env.given name = text?.map .text := by
  rw [given, text?_of_get? h hne]

end Environment

namespace Settings

open Checked

variable {env : Environment} {s : Settings} {a : Account}

theorem accountFields_of_expresses (h : env.Expresses s) (ha : s.account = some a)
    (hwell : a.WellFormed) : env.accountFields = a.entries := by
  have hgiven : ∀ name text?, (name, text?) ∈ s.texts → text? ≠ some "" →
      env.given name = text?.map .text :=
    fun name text? hmem => Environment.given_of_get? (h name text? hmem)
  have haddress : a.accountUrl ≠ some "" := by
    intro hempty
    exact absurd (hwell.accountUrl _ hempty) (by decide)
  rw [Environment.accountFields,
    hgiven _ a.connectionString (by simp [texts, ha]) hwell.connectionString,
    hgiven _ a.accountName (by simp [texts, ha]) hwell.accountName,
    hgiven _ a.accountKey (by simp [texts, ha]) hwell.accountKey,
    hgiven _ (some a.realm) (by simp [texts, ha]) (by simpa using hwell.realm),
    hgiven _ a.accountUrl (by simp [texts, ha]) haddress]
  rfl

/-- Without an account no variable of one is set, and with one its realm is. -/
theorem account?_of_expresses (h : env.Expresses s) (hwell : s.WellFormed) :
    env.account? = s.account.map fun a => .record (Environment.compact a.entries) := by
  unfold Environment.account?
  cases ha : s.account with
  | none =>
    have hnone : ∀ name, (name, none) ∈ s.texts → env.given name = none :=
      fun name hmem => Environment.given_of_get? (h name none hmem) (by simp)
    rw [Environment.accountFields, hnone _ (by simp [texts, ha]), hnone _ (by simp [texts, ha]),
      hnone _ (by simp [texts, ha]), hnone _ (by simp [texts, ha]), hnone _ (by simp [texts, ha])]
    rfl
  | some a =>
    have hrealm : ("realm", Value.text a.realm) ∈ Environment.compact a.entries :=
      Environment.mem_compact.mpr (by simp [Account.entries])
    rw [accountFields_of_expresses h ha (hwell.account a ha),
      if_neg (by simpa using List.ne_nil_of_mem hrealm)]
    rfl

theorem loggingFields_of_expresses (h : env.Expresses s) :
    env.loggingFields (some s.logging.pretty) = s.logging.entries := by
  have hlevel : env.given "LOG_LEVEL" = some (.text s.logging.level.name) :=
    Environment.given_of_get? (h _ (some s.logging.level.name) (by simp [texts]))
      (by cases s.logging.level <;> decide)
  rw [Environment.loggingFields, hlevel]
  rfl

/-- The fields that the variables give are checked to the settings. -/
theorem parts_of_expresses (h : env.Expresses s) (hwell : s.WellFormed) :
    s.Parts (Environment.compact (env.fields (some s.createContainer)
      (some (.ofNat s.maxChunkSize)) (some s.logging.pretty))) := by
  obtain ⟨hstore, hcontainer, hroot, hcreate, hsize, haccount, hlogging⟩ :=
    env.fields_given (some s.createContainer) (some (.ofNat s.maxChunkSize)) (some s.logging.pretty)
  refine {
    store := ?_
    container := ?_
    rootDirectory := ?_
    createContainer := ?_
    maxChunkSize := ?_
    account := ?_
    logging := ?_ }
  · have hname : env.given "BLOBVFS_BACKEND" = some (.text s.store.name) :=
      Environment.given_of_get? (h _ (some s.store.name) (by simp [texts]))
        (by cases s.store <;> decide)
    rw [hstore, hname]
    exact named_store s.store _
  · have hname : env.given "AZURE_STORAGE_CONTAINER" = some (.text s.container) :=
      Environment.given_of_get? (h _ (some s.container) (by simp [texts]))
        (by simpa using hwell.container)
    rw [hcontainer, hname]
    exact nonEmpty_text hwell.container
  · -- The empty text is the one that counts as not set, and it is the default.
    rw [hroot]
    have hget := h "BLOBVFS_ROOT_DIRECTORY" (some s.rootDirectory) (by simp [texts])
    by_cases hempty : s.rootDirectory = ""
    · rw [hempty] at hget ⊢
      simp [Environment.given, Environment.text?, hget, Option.filter, orElse]
    · rw [Environment.given_of_get? hget (by simpa using hempty)]
      rfl
  · rw [hcreate]
    rfl
  · rw [hsize]
    exact chunkSize_ofNat hwell.size_pos hwell.size_le
  · rw [haccount, account?_of_expresses h hwell]
    exact optional_account hwell
  · rw [hlogging, loggingFields_of_expresses h]
    exact checkLogging_entries s.logging

/-- Accepted settings are expressed by variables, and every environment that expresses them gives
them back. -/
theorem ofEnvironment_expressed {v : Value} (h : check v = .ok s) :
    s.environment.Expresses s ∧
      ∀ env : Environment, env.Expresses s → Settings.ofEnvironment env = .ok s := by
  refine ⟨Environment.environment_expresses s, ?_⟩
  intro env henv
  have hwell := wellFormed_of_check h
  have hcreate : env.flag? "BLOBVFS_CREATE_CONTAINER" = .ok (some s.createContainer) :=
    Environment.flag?_of_get? (henv _ _ (by simp [texts]))
  have hsize : env.integer? "BLOBVFS_MAX_CHUNK_SIZE" = .ok (some (.ofNat s.maxChunkSize)) :=
    Environment.integer?_of_get? (henv _ _ (by simp [texts])) (hwell.size_le.trans (by decide))
  have hpretty : env.flag? "LOG_PRETTY" = .ok (some s.logging.pretty) :=
    Environment.flag?_of_get? (henv _ _ (by simp [texts]))
  have hcheck := (parts_of_expresses henv hwell).check hwell
  simp only [ofEnvironment, Environment.value_ok env hcreate hsize hpretty, bind, Except.bind,
    hcheck]
  rfl

/-- An account with one of its fields, the empty root, and a variable that is none of these. -/
theorem ofEnvironment_expressed_beside :
    let v : Value := .record [("container", .text "c"), ("maxChunkSize", .number (.ofNat 65536)),
      ("azure", .record [("connectionString", .text "k=v")])]
    ∃ s, check v = .ok s ∧ s.rootDirectory = "" ∧
      s.account = some { connectionString := some "k=v" } ∧ s.environment.Expresses s ∧
      Settings.ofEnvironment (("HOME", "/home") :: s.environment) = .ok s := by
  intro v
  let s : Settings :=
    { container := "c", maxChunkSize := 65536, account := some { connectionString := some "k=v" } }
  have hcheck : check v = .ok s := by decide +kernel
  obtain ⟨hexpresses, hback⟩ := ofEnvironment_expressed hcheck
  have hbeside : ∀ entry ∈ s.texts,
      Environment.get? (("HOME", "/home") :: s.environment) entry.1 = entry.2 := by decide +kernel
  exact ⟨s, hcheck, rfl, rfl, hexpresses, hback _ fun _ _ hmem => hbeside _ hmem⟩

end Settings
end BlobTree
