import BlobTree.Proofs.Settings.Checked

/-!
# BlobTree.Proofs.Settings.Reported

Which bad settings of an environment an error names. A variable that is neither a truth value nor
a whole number ends the loading at once; when there is none, all fields are looked at, and the
credentials if no field has an issue that stops.

* `Setting.Bad`: what it is for each setting to be bad on its own; `Setting.Hidden`: the settings
  that an error passes over.
* `Setting.issues`: the issues with each; `issues_checkFields`: the fields have these.
* `ofEnvironment_names`: an error names the bad settings that are not hidden, and no others.
-/

namespace BlobTree

/-- The settings that can be bad in an environment. -/
inductive Setting where
  | backend
  | container
  | createContainer
  | maxChunkSize
  | accountUrl
  | level
  | pretty
  | credentials
  deriving DecidableEq

namespace Setting

def source : Setting → Option String
  | backend => some "BLOBVFS_BACKEND"
  | container => some "AZURE_STORAGE_CONTAINER"
  | createContainer => some "BLOBVFS_CREATE_CONTAINER"
  | maxChunkSize => some "BLOBVFS_MAX_CHUNK_SIZE"
  | accountUrl => some "AZURE_STORAGE_ACCOUNT_URL"
  | level => some "LOG_LEVEL"
  | pretty => some "LOG_PRETTY"
  | credentials => none

def path : Setting → List String
  | backend => ["backend"]
  | container => ["container"]
  | createContainer => ["createContainer"]
  | maxChunkSize => ["maxChunkSize"]
  | accountUrl => ["azure", "accountUrl"]
  | level => ["logging", "level"]
  | pretty => ["logging", "pretty"]
  | credentials => ["azure"]

/-- The text of a truth value. -/
def IsFlag (raw : String) : Prop :=
  Text.lower (Text.trim raw.toList) ∈ ["true".toList, ['1'], "false".toList, ['0']]

/-- A setting that is missing or invalid, whatever the other settings are. -/
def Bad (env : Environment) : Setting → Prop
  | backend => ∃ raw, env.text? "BLOBVFS_BACKEND" = some raw ∧ StoreKind.ofName? raw = none
  | container => env.text? "AZURE_STORAGE_CONTAINER" = none
  | createContainer => ∃ raw, env.text? "BLOBVFS_CREATE_CONTAINER" = some raw ∧ ¬IsFlag raw
  | maxChunkSize => ∃ raw, env.text? "BLOBVFS_MAX_CHUNK_SIZE" = some raw ∧
      ¬∃ k, 0 < k ∧ k ≤ Settings.maxChunk ∧ Number.ofText raw.toList = .ofNat k
  | accountUrl => ∃ raw, env.text? "AZURE_STORAGE_ACCOUNT_URL" = some raw ∧
      Url.isValid raw.toList = false
  | level => ∃ raw, env.text? "LOG_LEVEL" = some raw ∧ Level.ofName? raw = none
  | pretty => ∃ raw, env.text? "LOG_PRETTY" = some raw ∧ ¬IsFlag raw
  | credentials => (env.text? "BLOBVFS_BACKEND").all (· = StoreKind.azure.name) ∧
      env.text? "AZURE_STORAGE_CONNECTION_STRING" = none ∧
      (env.text? "AZURE_STORAGE_ACCOUNT" = none ∨ env.text? "AZURE_STORAGE_KEY" = none) ∧
      env.text? "AZURE_STORAGE_ACCOUNT_URL" = none

/-- A variable whose text is not of the right form. -/
def Malformed (env : Environment) : Setting → Prop
  | createContainer => Bad env createContainer
  | maxChunkSize => ∃ raw, env.text? "BLOBVFS_MAX_CHUNK_SIZE" = some raw ∧
      (Number.ofText raw.toList).toInt? = none
  | pretty => Bad env pretty
  | _ => False

/-- The turn in which a variable is read that has a form. -/
def turn : Setting → Nat
  | createContainer => 0
  | maxChunkSize => 1
  | _ => 2

/-- A setting behind a malformed variable, or the credentials behind a field after whose issue the
settings are not looked at as a whole. -/
inductive Hidden (env : Environment) : Setting → Prop where
  | byVariable {s f : Setting} : f.Malformed env → f ≠ s → (s.Malformed env → f.turn < s.turn) →
      Hidden env s
  | byField {f : Setting} : f ∈ [container, level] → f.Bad env → Hidden env credentials

end Setting

/-- What an error says something about: a variable, or what stands before the colon of a line. -/
def SettingsError.Names : SettingsError → Setting → Prop
  | .notBoolean name _, s | .notInteger name _, s => s.source = some name
  | .badEnvironment lines, s =>
    (".".intercalate s.path).toList ∈ lines.map fun line => line.toList.takeWhile (· ≠ ':')
  | _, _ => False

namespace Environment

variable (env : Environment)

def given (name : String) : Option Value :=
  (env.text? name).map .text

/-- The number that the text of a variable stands for, if it is set. -/
def number? (name : String) : Option Number :=
  (env.text? name).map fun raw => Number.ofText raw.toList

theorem text?_nonempty {name raw : String} (h : env.text? name = some raw) :
    raw.isEmpty = false := by
  have := (Option.filter_eq_some_iff.mp h).2
  simpa using this

theorem flag?_cases (name : String) :
    (∃ raw, env.text? name = some raw ∧ ¬Setting.IsFlag raw ∧
      env.flag? name = .error (.notBoolean name raw)) ∨
    (¬∃ raw, env.text? name = some raw ∧ ¬Setting.IsFlag raw) ∧ ∃ b?, env.flag? name = .ok b? := by
  unfold flag?
  cases htext : env.text? name with
  | none => exact .inr ⟨by simp, none, rfl⟩
  | some raw =>
    by_cases hflag : Setting.IsFlag raw
    · refine .inr ⟨by simpa using hflag, ?_⟩
      dsimp only
      split
      · exact ⟨_, rfl⟩
      · split
        · exact ⟨_, rfl⟩
        · simp only [Setting.IsFlag, List.mem_cons, List.not_mem_nil, or_false] at hflag
          tauto
    · refine .inl ⟨raw, rfl, hflag, ?_⟩
      simp only [Setting.IsFlag, List.mem_cons, List.not_mem_nil, or_false, not_or] at hflag
      dsimp only
      rw [if_neg (by tauto), if_neg (by tauto)]

theorem integer?_cases (name : String) :
    (∃ raw, env.text? name = some raw ∧ (Number.ofText raw.toList).toInt? = none ∧
      env.integer? name = .error (.notInteger name raw)) ∨
    (¬∃ raw, env.text? name = some raw ∧ (Number.ofText raw.toList).toInt? = none) ∧
      env.integer? name = .ok (env.number? name) := by
  unfold integer? number?
  cases htext : env.text? name with
  | none => exact .inr ⟨by simp, rfl⟩
  | some raw =>
    cases hint : (Number.ofText raw.toList).toInt? with
    | none => exact .inl ⟨raw, rfl, hint, by simp [hint]⟩
    | some i => exact .inr ⟨by simp [hint], by simp [hint]⟩

def accountFields : List (String × Option Value) :=
  [("connectionString", env.given "AZURE_STORAGE_CONNECTION_STRING"),
    ("accountName", env.given "AZURE_STORAGE_ACCOUNT"),
    ("accountKey", env.given "AZURE_STORAGE_KEY"), ("realm", env.given "AZURE_STORAGE_REALM"),
    ("accountUrl", env.given "AZURE_STORAGE_ACCOUNT_URL")]

def account? : Option Value :=
  if (compact env.accountFields).isEmpty then none else some (.record (compact env.accountFields))

def loggingFields (pretty : Option Bool) : List (String × Option Value) :=
  [("level", env.given "LOG_LEVEL"), ("pretty", pretty.map .flag)]

def fields (create : Option Bool) (size : Option Number) (pretty : Option Bool) :
    List (String × Option Value) :=
  [("backend", env.given "BLOBVFS_BACKEND"), ("container", env.given "AZURE_STORAGE_CONTAINER"),
    ("rootDirectory", env.given "BLOBVFS_ROOT_DIRECTORY"), ("createContainer", create.map .flag),
    ("maxChunkSize", size.map .number), ("azure", env.account?),
    ("logging", some (.record (compact (env.loggingFields pretty))))]

theorem value_ok {create pretty : Option Bool} {size : Option Number}
    (hcreate : env.flag? "BLOBVFS_CREATE_CONTAINER" = .ok create)
    (hsize : env.integer? "BLOBVFS_MAX_CHUNK_SIZE" = .ok size)
    (hpretty : env.flag? "LOG_PRETTY" = .ok pretty) :
    env.value = .ok (.record (compact (env.fields create size pretty))) := by
  unfold value
  rw [hcreate, hsize, hpretty]
  rfl

theorem fields_given (create : Option Bool) (size : Option Number) (pretty : Option Bool) :
    let field := Value.field (compact (env.fields create size pretty))
    field "backend" = (env.given "BLOBVFS_BACKEND").getD .absent ∧
    field "container" = (env.given "AZURE_STORAGE_CONTAINER").getD .absent ∧
    field "rootDirectory" = (env.given "BLOBVFS_ROOT_DIRECTORY").getD .absent ∧
    field "createContainer" = (create.map Value.flag).getD .absent ∧
    field "maxChunkSize" = (size.map Value.number).getD .absent ∧
    field "azure" = env.account?.getD .absent ∧
    field "logging" = (some (.record (compact (env.loggingFields pretty)))).getD .absent := by
  have hnames : ((env.fields create size pretty).map (·.1)).Nodup := Settings.names_nodup
  refine ⟨?_, ?_, ?_, ?_, ?_, ?_, ?_⟩ <;> exact field_compact hnames (by simp [fields])

theorem account_given :
    let field := Value.field (compact env.accountFields)
    field "connectionString" = (env.given "AZURE_STORAGE_CONNECTION_STRING").getD .absent ∧
    field "accountName" = (env.given "AZURE_STORAGE_ACCOUNT").getD .absent ∧
    field "accountKey" = (env.given "AZURE_STORAGE_KEY").getD .absent ∧
    field "realm" = (env.given "AZURE_STORAGE_REALM").getD .absent ∧
    field "accountUrl" = (env.given "AZURE_STORAGE_ACCOUNT_URL").getD .absent := by
  have hnames : (env.accountFields.map (·.1)).Nodup := Settings.accountNames_nodup
  refine ⟨?_, ?_, ?_, ?_, ?_⟩ <;> exact field_compact hnames (by simp [accountFields])

theorem logging_given (pretty : Option Bool) :
    let field := Value.field (compact (env.loggingFields pretty))
    field "level" = (env.given "LOG_LEVEL").getD .absent ∧
    field "pretty" = (pretty.map Value.flag).getD .absent := by
  have hnames : ((env.loggingFields pretty).map (·.1)).Nodup := Settings.loggingNames_nodup
  refine ⟨?_, ?_⟩ <;> exact field_compact hnames (by simp [loggingFields])

end Environment

namespace Setting

open Checked

/-- The issue with a text that is none of some names. -/
def unknown {α : Type} (path : List String) (options : List String) (ofName? : String → Option α)
    (text? : Option String) : List Issue :=
  (text?.filter fun raw => (ofName? raw).isNone).toList.map fun raw =>
    ⟨path, .unknownName options raw⟩

/-- The issues with a setting whose variable is of the right form. -/
def issues (env : Environment) : Setting → List Issue
  | backend =>
    unknown (path backend) (StoreKind.all.map StoreKind.name) StoreKind.ofName?
      (env.text? "BLOBVFS_BACKEND")
  | container =>
    match env.text? "AZURE_STORAGE_CONTAINER" with
    | none => [⟨path container, .wrongKind "string" "undefined"⟩]
    | some _ => []
  | maxChunkSize =>
    match env.text? "BLOBVFS_MAX_CHUNK_SIZE" with
    | none => []
    | some raw =>
      (chunkFlaws (Number.ofText raw.toList)).map fun cause => ⟨path maxChunkSize, cause⟩
  | accountUrl =>
    match env.text? "AZURE_STORAGE_ACCOUNT_URL" with
    | none => []
    | some raw => if Url.isValid raw.toList then [] else [⟨path accountUrl, .badUrl⟩]
  | level =>
    unknown (path level) (Level.all.map Level.name) Level.ofName? (env.text? "LOG_LEVEL")
  | createContainer | pretty | credentials => []

/-- The settings with which the fields have issues. -/
def ofFields : List Setting :=
  [backend, container, maxChunkSize, accountUrl, level]

variable (env : Environment)

theorem issues_named {α : Type} (default : α) (path : List String) (options : List String)
    (ofName? : String → Option α) (name : String) :
    Checked.issues (orElse default (named path options ofName?) ((env.given name).getD .absent)) =
      unknown path options ofName? (env.text? name) := by
  unfold Environment.given unknown
  cases env.text? name with
  | none => rfl
  | some raw =>
    simp only [Option.map_some, Option.getD_some, orElse, named]
    cases h : ofName? raw <;> simp [h, Checked.issues, flaw, Option.filter]

theorem issues_nonEmpty {path : List String} {name raw : String}
    (h : env.text? name = some raw) : Checked.issues (nonEmpty path (.text raw)) = [] := by
  simp [nonEmpty, text, Except.bind, env.text?_nonempty h, Checked.issues]

/-- A check that passes every text of a variable has no issue with it, set or not. -/
theorem issues_orElse {α : Type} {default : α} {check : Value → Checked α} {name : String}
    (h : ∀ raw, env.text? name = some raw → Checked.issues (check (.text raw)) = []) :
    Checked.issues (orElse default check ((env.given name).getD .absent)) = [] := by
  unfold Environment.given
  cases htext : env.text? name with
  | none => rfl
  | some raw => exact h raw htext

theorem issues_given (path : List String) (name : String) :
    Checked.issues (Checked.optional (nonEmpty path) ((env.given name).getD .absent)) = [] := by
  rw [optional_eq]
  refine issues_orElse env ?_
  intro raw h
  rw [issues_map]
  exact issues_nonEmpty env h

theorem issues_realm (default : String) (path : List String) (name : String) :
    Checked.issues (orElse default (nonEmpty path) ((env.given name).getD .absent)) = [] :=
  issues_orElse env fun _ h => issues_nonEmpty env h

theorem issues_flag (default : Bool) (path : List String) (b? : Option Bool) :
    Checked.issues (orElse default (flag path) ((b?.map Value.flag).getD .absent)) = [] := by
  cases b? <;> rfl

theorem issues_text (default : String) (path : List String) (name : String) :
    Checked.issues (orElse default (text path) ((env.given name).getD .absent)) = [] :=
  issues_orElse env fun _ _ => rfl

theorem issues_url :
    Checked.issues (Checked.optional (url (path accountUrl))
      ((env.given "AZURE_STORAGE_ACCOUNT_URL").getD .absent)) = accountUrl.issues env := by
  unfold Environment.given issues
  cases env.text? "AZURE_STORAGE_ACCOUNT_URL" with
  | none => rfl
  | some raw =>
    simp only [Option.map_some, Option.getD_some, Checked.optional, issues_map, url, text,
      Except.bind]
    split <;> rfl

theorem issues_account :
    Checked.issues (Checked.optional Settings.checkAccount (env.account?.getD .absent)) =
      accountUrl.issues env := by
  obtain ⟨hconnection, hname, hkey, hrealm, hurl⟩ := env.account_given
  unfold Environment.account?
  split
  · next hempty =>
    rw [List.isEmpty_iff.mp hempty] at hurl
    rw [← issues_url, ← hurl]
    rfl
  · show Checked.issues (Except.map some (Settings.checkAccount
      (.record (Environment.compact env.accountFields)))) = _
    simp only [issues_map, Settings.checkAccount, record, Except.bind, issues_both, hconnection,
      hname, hkey, hrealm, hurl, issues_given, issues_realm, List.nil_append]
    exact issues_url env

theorem issues_logging (pretty : Option Bool) :
    Checked.issues (orElse {} Settings.checkLogging
      ((some (.record (Environment.compact (env.loggingFields pretty)))).getD .absent)) =
      level.issues env := by
  obtain ⟨hlevel, hpretty⟩ := env.logging_given pretty
  show Checked.issues (Settings.checkLogging
    (.record (Environment.compact (env.loggingFields pretty)))) = _
  simp only [Settings.checkLogging, record, Except.bind, issues_map, issues_both, hlevel, hpretty,
    issues_named, issues_flag, List.append_nil]
  rfl

theorem issues_container :
    Checked.issues (nonEmpty (path container)
      ((env.given "AZURE_STORAGE_CONTAINER").getD .absent)) = container.issues env := by
  unfold Environment.given issues
  cases htext : env.text? "AZURE_STORAGE_CONTAINER" with
  | none => rfl
  | some raw => exact issues_nonEmpty env htext

theorem issues_size (hform : ¬maxChunkSize.Malformed env) :
    Checked.issues (orElse Settings.maxChunk (chunkSize (path maxChunkSize))
      (((env.number? "BLOBVFS_MAX_CHUNK_SIZE").map Value.number).getD .absent)) =
      maxChunkSize.issues env := by
  unfold Environment.number? issues
  cases htext : env.text? "BLOBVFS_MAX_CHUNK_SIZE" with
  | none => rfl
  | some raw => exact issues_chunkSize _ fun hnone => hform ⟨raw, htext, hnone⟩

theorem issues_checkFields (create pretty : Option Bool) (hform : ¬maxChunkSize.Malformed env) :
    Checked.issues (Settings.checkFields (Environment.compact
      (env.fields create (env.number? "BLOBVFS_MAX_CHUNK_SIZE") pretty))) =
      ofFields.flatMap (issues env) := by
  obtain ⟨hbackend, hcontainer, hroot, hcreate, hmax, haccount, hlogging⟩ :=
    env.fields_given create (env.number? "BLOBVFS_MAX_CHUNK_SIZE") pretty
  have hsize := issues_size env hform
  have hname := issues_container env
  simp only [path] at hsize hname
  simp only [Settings.checkFields, issues_map, issues_both, hbackend, hcontainer, hroot, hcreate,
    hmax, haccount, hlogging, issues_named, issues_text, issues_flag, issues_account,
    issues_logging, hsize, hname, ofFields, List.flatMap_cons, List.flatMap_nil, List.append_nil,
    List.nil_append]
  rfl

theorem hasText_given {fields : List (String × Value)} {field name : String}
    (h : Value.field fields field = (env.given name).getD .absent) :
    Settings.hasText fields field = (env.text? name).isSome := by
  unfold Settings.hasText
  rw [h, Environment.given]
  cases htext : env.text? name with
  | none => rfl
  | some raw => simp [env.text?_nonempty htext]

theorem hasCredentials_account :
    Settings.hasCredentials (env.account?.getD .absent) =
      ((env.text? "AZURE_STORAGE_CONNECTION_STRING").isSome ||
        ((env.text? "AZURE_STORAGE_ACCOUNT").isSome && (env.text? "AZURE_STORAGE_KEY").isSome) ||
        (env.text? "AZURE_STORAGE_ACCOUNT_URL").isSome) := by
  obtain ⟨hconnection, hname, hkey, -, hurl⟩ := env.account_given
  rw [← hasText_given env hconnection, ← hasText_given env hname, ← hasText_given env hkey,
    ← hasText_given env hurl]
  unfold Environment.account?
  split
  · next hempty =>
    rw [List.isEmpty_iff.mp hempty]
    rfl
  · rfl

/-- The settings as a whole have an issue exactly if there are no credentials. -/
theorem overallIssues_fields (create : Option Bool) (size : Option Number) (pretty : Option Bool) :
    (credentials.Bad env ∧ Settings.overallIssues (Environment.compact
      (env.fields create size pretty)) = [⟨path credentials, .noCredentials⟩]) ∨
    (¬credentials.Bad env ∧ Settings.overallIssues (Environment.compact
      (env.fields create size pretty)) = []) := by
  obtain ⟨hbackend, -, -, -, -, haccount, -⟩ := env.fields_given create size pretty
  have hremote : Settings.asksRemote (Environment.compact (env.fields create size pretty)) =
      (env.text? "BLOBVFS_BACKEND").all (· = StoreKind.azure.name) := by
    unfold Settings.asksRemote
    rw [hbackend, Environment.given]
    cases env.text? "BLOBVFS_BACKEND" <;> rfl
  unfold Settings.overallIssues Bad
  rw [hremote, haccount, hasCredentials_account]
  generalize (env.text? "BLOBVFS_BACKEND").all _ = remote
  cases env.text? "AZURE_STORAGE_CONNECTION_STRING" <;> cases env.text? "AZURE_STORAGE_ACCOUNT" <;>
    cases env.text? "AZURE_STORAGE_KEY" <;> cases env.text? "AZURE_STORAGE_ACCOUNT_URL" <;>
    cases remote <;> simp [path]

theorem mem_unknown {α : Type} {path options : List String} {ofName? : String → Option α}
    {text? : Option String} {i : Issue} :
    i ∈ unknown path options ofName? text? ↔
      ∃ raw, text? = some raw ∧ ofName? raw = none ∧ i = ⟨path, .unknownName options raw⟩ := by
  unfold unknown
  cases text? with
  | none => simp
  | some raw => cases h : ofName? raw <;> simp [h, Option.filter]

theorem mem_issues {s : Setting} {i : Issue} (h : i ∈ s.issues env) :
    i.path = s.path ∧ (i.stops ↔ s = backend ∨ s = container ∨ s = level) := by
  cases s with
  | backend =>
    obtain ⟨raw, -, -, rfl⟩ := mem_unknown.mp h
    exact ⟨rfl, by simp [Issue.stops]⟩
  | level =>
    obtain ⟨raw, -, -, rfl⟩ := mem_unknown.mp h
    exact ⟨rfl, by simp [Issue.stops]⟩
  | container =>
    simp only [issues] at h
    split at h
    · obtain rfl := List.mem_singleton.mp h
      exact ⟨rfl, by simp [Issue.stops]⟩
    · cases h
  | maxChunkSize =>
    simp only [issues] at h
    split at h
    · cases h
    · obtain ⟨cause, hcause, rfl⟩ := List.mem_map.mp h
      refine ⟨rfl, ?_⟩
      simp only [chunkFlaws, List.mem_append, List.mem_ite_nil_right, List.mem_singleton] at hcause
      obtain (⟨-, rfl⟩ | ⟨-, rfl⟩) | ⟨-, rfl⟩ := hcause <;> simp [Issue.stops]
  | accountUrl =>
    simp only [issues] at h
    split at h
    · cases h
    · split at h
      · cases h
      · obtain rfl := List.mem_singleton.mp h
        exact ⟨rfl, by simp [Issue.stops]⟩
  | createContainer => cases h
  | pretty => cases h
  | credentials => cases h

/-- A setting whose variable has its form is bad exactly if there is an issue with it. -/
theorem exists_issue_iff {s : Setting} (hs : s ≠ credentials) (hform : ¬s.Malformed env) :
    (∃ i, i ∈ s.issues env) ↔ s.Bad env := by
  cases s with
  | backend =>
    simp only [issues, mem_unknown, Bad]
    constructor
    · rintro ⟨_, raw, htext, hname, -⟩
      exact ⟨raw, htext, hname⟩
    · rintro ⟨raw, htext, hname⟩
      exact ⟨_, raw, htext, hname, rfl⟩
  | level =>
    simp only [issues, mem_unknown, Bad]
    constructor
    · rintro ⟨_, raw, htext, hname, -⟩
      exact ⟨raw, htext, hname⟩
    · rintro ⟨raw, htext, hname⟩
      exact ⟨_, raw, htext, hname, rfl⟩
  | container =>
    simp only [issues, Bad]
    cases env.text? "AZURE_STORAGE_CONTAINER" <;> simp
  | createContainer | pretty =>
    exact ⟨fun ⟨_, h⟩ => (List.not_mem_nil h).elim, fun h => absurd h hform⟩
  | maxChunkSize =>
    simp only [issues, Bad]
    cases env.text? "BLOBVFS_MAX_CHUNK_SIZE" with
    | none => simp
    | some raw =>
      simp only [Option.some.injEq, exists_eq_left', ← chunkFlaws_nil]
      cases chunkFlaws (Number.ofText raw.toList) <;> simp
  | accountUrl =>
    simp only [issues, Bad]
    cases env.text? "AZURE_STORAGE_ACCOUNT_URL" with
    | none => simp
    | some raw => cases hurl : Url.isValid raw.toList <;> simp [hurl]
  | credentials => exact absurd rfl hs

theorem stops_iff :
    (ofFields.flatMap (issues env)).any Issue.stops ↔
      ∃ s, (s = backend ∨ s = container ∨ s = level) ∧ s.Bad env := by
  have hbad : ∀ s, s = backend ∨ s = container ∨ s = level →
      ((∃ i, i ∈ s.issues env) ↔ s.Bad env) := by
    rintro s (rfl | rfl | rfl) <;> exact exists_issue_iff env (by simp) (by simp [Malformed])
  simp only [List.any_eq_true, List.mem_flatMap]
  constructor
  · rintro ⟨i, ⟨s, -, hi⟩, hstops⟩
    have hs := (mem_issues env hi).2.mp hstops
    exact ⟨s, hs, (hbad s hs).mp ⟨i, hi⟩⟩
  · rintro ⟨s, hs, hb⟩
    obtain ⟨i, hi⟩ := (hbad s hs).mpr hb
    refine ⟨i, ⟨s, ?_, hi⟩, (mem_issues env hi).2.mpr hs⟩
    rcases hs with rfl | rfl | rfl <;> simp [ofFields]

/-- The places of settings have no colon and are all different. -/
theorem place_text (s : Setting) :
    (".".intercalate s.path).isEmpty = false ∧ ':' ∉ (".".intercalate s.path).toList := by
  cases s <;> decide

theorem place_injective {s s' : Setting}
    (h : (".".intercalate s.path).toList = (".".intercalate s'.path).toList) : s = s' := by
  cases s <;> cases s' <;> first | rfl | exact absurd h (by decide)

theorem takeWhile_line {s : Setting} {i : Issue} (h : i.path = s.path) :
    i.line.toList.takeWhile (· ≠ ':') = (".".intercalate s.path).toList := by
  obtain ⟨hempty, hcolon⟩ := place_text s
  rw [Issue.line, h, hempty]
  simp only [Bool.false_eq_true, if_false, String.toList_append]
  rw [List.append_assoc, List.takeWhile_append_of_pos]
  · simp
  · intro c hc
    simpa using fun heq : c = ':' => hcolon (heq ▸ hc)

/-- A line names the setting whose place it begins with. -/
theorem names_iff {is : List Issue} (his : ∀ i ∈ is, ∃ s : Setting, i.path = s.path)
    (s : Setting) :
    (SettingsError.badEnvironment (is.map Issue.line)).Names s ↔ ∃ i ∈ is, i.path = s.path := by
  simp only [SettingsError.Names, List.map_map, List.mem_map, Function.comp]
  constructor
  · rintro ⟨i, hi, hline⟩
    obtain ⟨s', hs'⟩ := his i hi
    rw [takeWhile_line hs'] at hline
    exact ⟨i, hi, by rw [hs', place_injective hline]⟩
  · rintro ⟨i, hi, hpath⟩
    exact ⟨i, hi, takeWhile_line hpath⟩

theorem path_injective {s s' : Setting} (h : s.path = s'.path) : s = s' :=
  place_injective (by rw [h])

/-- The fields have an issue at the place of a setting exactly if that is bad. -/
theorem exists_at_iff (hform : ∀ s : Setting, ¬s.Malformed env) (s : Setting) :
    (∃ i ∈ ofFields.flatMap (issues env), i.path = s.path) ↔ s ≠ credentials ∧ s.Bad env := by
  constructor
  · rintro ⟨i, hi, hpath⟩
    obtain ⟨s', hs', hi⟩ := List.mem_flatMap.mp hi
    obtain rfl := path_injective (hpath.symm.trans (mem_issues env hi).1)
    have hne : s ≠ credentials := by
      rintro rfl
      cases hi
    exact ⟨hne, (exists_issue_iff env hne (hform s)).mp ⟨i, hi⟩⟩
  · rintro ⟨hne, hbad⟩
    obtain ⟨i, hi⟩ := (exists_issue_iff env hne (hform s)).mpr hbad
    refine ⟨i, List.mem_flatMap.mpr ⟨s, ?_, hi⟩, (mem_issues env hi).1⟩
    cases s <;> first | decide | cases hi

theorem hidden_iff (hform : ∀ s : Setting, ¬s.Malformed env) (s : Setting) :
    s.Hidden env ↔ s = credentials ∧ (container.Bad env ∨ level.Bad env) := by
  constructor
  · rintro (⟨hf, -, -⟩ | ⟨hf, hbad⟩)
    · exact absurd hf (hform _)
    · simp only [List.mem_cons, List.not_mem_nil, or_false] at hf
      rcases hf with rfl | rfl
      · exact ⟨rfl, .inl hbad⟩
      · exact ⟨rfl, .inr hbad⟩
  · rintro ⟨rfl, hbad | hbad⟩
    · exact .byField (by simp) hbad
    · exact .byField (by simp) hbad

theorem not_backend_of_credentials (h : credentials.Bad env) : ¬backend.Bad env := by
  rintro ⟨raw, htext, hname⟩
  have hazure : raw = StoreKind.azure.name := by simpa [htext] using h.1
  rw [hazure] at hname
  cases hname

/-- An error about the settings, when every variable has its form, names the bad ones, but not the
credentials behind an issue that stops. -/
theorem names_of_issues (hform : ∀ s : Setting, ¬s.Malformed env) {overall : List Issue}
    (hoverall : (credentials.Bad env ∧ overall = [⟨path credentials, .noCredentials⟩]) ∨
      (¬credentials.Bad env ∧ overall = [])) (s : Setting) :
    (SettingsError.badEnvironment ((ofFields.flatMap (issues env) ++
      if (ofFields.flatMap (issues env)).any Issue.stops then [] else overall).map
        Issue.line)).Names s ↔ s.Bad env ∧ ¬s.Hidden env := by
  have hlast : ∀ i ∈ overall, i.path = path credentials := by
    intro i hi
    rcases hoverall with ⟨-, rfl⟩ | ⟨-, rfl⟩
    · obtain rfl := List.mem_singleton.mp hi
      rfl
    · cases hi
  have hpaths : ∀ i ∈ ofFields.flatMap (issues env) ++
      (if (ofFields.flatMap (issues env)).any Issue.stops then [] else overall),
      ∃ s : Setting, i.path = s.path := by
    intro i hi
    rcases List.mem_append.mp hi with hi | hi
    · obtain ⟨s, -, hi⟩ := List.mem_flatMap.mp hi
      exact ⟨s, (mem_issues env hi).1⟩
    · split at hi
      · cases hi
      · exact ⟨credentials, hlast i hi⟩
  rw [names_iff hpaths, hidden_iff env hform]
  simp only [List.mem_append, or_and_right, exists_or, exists_at_iff env hform]
  by_cases hs : s = credentials
  · subst hs
    simp only [ne_eq, not_true_eq_false, false_and, false_or, true_and]
    by_cases hstops : (ofFields.flatMap (issues env)).any Issue.stops
    · -- no line about the credentials: an unknown store needs none, else they are hidden
      obtain ⟨s, hs, hbad⟩ := (stops_iff env).mp hstops
      simp only [hstops, if_true, List.not_mem_nil, false_and, exists_false, false_iff, not_and,
        not_not]
      intro hcredentials
      rcases hs with rfl | rfl | rfl
      · exact absurd hbad (not_backend_of_credentials env hcredentials)
      · exact .inl hbad
      · exact .inr hbad
    · have hnot : ¬(container.Bad env ∨ level.Bad env) := by
        rintro (hbad | hbad)
        · exact hstops ((stops_iff env).mpr ⟨_, by simp, hbad⟩)
        · exact hstops ((stops_iff env).mpr ⟨_, by simp, hbad⟩)
      simp only [hstops, Bool.false_eq_true, if_false, hnot, not_false_iff, and_true]
      rcases hoverall with ⟨hbad, rfl⟩ | ⟨hbad, rfl⟩
      · simp [hbad]
      · simp [hbad]
  · have hrest : ¬∃ i ∈ (if (ofFields.flatMap (issues env)).any Issue.stops then [] else overall),
        i.path = s.path := by
      rintro ⟨i, hi, hpath⟩
      split at hi
      · cases hi
      · exact hs (path_injective (hpath.symm.trans (hlast i hi)))
    simp only [hrest, or_false, ne_eq, hs, not_false_iff, true_and, false_and, and_true]

theorem Malformed.bad {f : Setting} (hf : f.Malformed env) : f.Bad env := by
  cases f with
  | createContainer => exact hf
  | pretty => exact hf
  | maxChunkSize =>
    obtain ⟨raw, htext, hint⟩ := hf
    refine ⟨raw, htext, ?_⟩
    rintro ⟨k, -, -, hk⟩
    rw [hk, Number.toInt?_ofNat] at hint
    cases hint
  | _ => cases hf

theorem Malformed.mem {f : Setting} (hf : f.Malformed env) :
    f = createContainer ∨ f = maxChunkSize ∨ f = pretty := by
  cases f <;> simp_all [Malformed]

theorem turn_injective {f g : Setting} (hf : f.Malformed env) (hg : g.Malformed env)
    (h : f.turn = g.turn) : f = g := by
  rcases hf.mem with rfl | rfl | rfl <;> rcases hg.mem with rfl | rfl | rfl <;>
    first | rfl | cases h

/-- The first malformed variable is the one setting that is bad and not hidden. -/
theorem eq_iff_of_first {f : Setting} (hf : f.Malformed env)
    (hfirst : ∀ g : Setting, g.Malformed env → f.turn ≤ g.turn) (s : Setting) :
    s = f ↔ s.Bad env ∧ ¬s.Hidden env := by
  constructor
  · rintro rfl
    refine ⟨hf.bad, ?_⟩
    rintro (⟨hg, hne, hturn⟩ | ⟨-, -⟩)
    · have hle := hfirst _ hg
      have hlt := hturn hf
      omega
    · exact hf
  · rintro ⟨hbad, hhidden⟩
    by_contra hne
    refine hhidden (.byVariable hf (Ne.symm hne) fun hs => ?_)
    have hle := hfirst s hs
    have hturn : f.turn ≠ s.turn := fun h => hne (turn_injective env hf hs h).symm
    omega

theorem source_iff {f : Setting} (hf : f.Malformed env) (s : Setting) :
    s.source = f.source ↔ s = f := by
  rcases hf.mem with rfl | rfl | rfl <;> cases s <;> simp [source]

/-- The first malformed variable ends the reading of the environment with an error of its own. -/
theorem value_cases :
    (∃ f e, f.Malformed env ∧ (∀ g : Setting, g.Malformed env → f.turn ≤ g.turn) ∧
      env.value = .error e ∧ ∀ s, e.Names s ↔ s = f) ∨
    (∀ s : Setting, ¬s.Malformed env) ∧ ∃ create pretty, env.value = .ok (.record
      (Environment.compact
        (env.fields create (env.number? "BLOBVFS_MAX_CHUNK_SIZE") pretty))) := by
  -- the variables are read in turn, and the first that has not its form ends the reading
  rcases env.flag?_cases "BLOBVFS_CREATE_CONTAINER" with
    ⟨raw, htext, hraw, hcreate⟩ | ⟨hcreateForm, create, hcreate⟩
  · have hf : createContainer.Malformed env := ⟨raw, htext, hraw⟩
    refine .inl ⟨createContainer, .notBoolean _ raw, hf, ?_, ?_, source_iff env hf⟩
    · intro g _
      exact Nat.zero_le _
    · rw [Environment.value, hcreate]
      rfl
  rcases env.integer?_cases "BLOBVFS_MAX_CHUNK_SIZE" with
    ⟨raw, htext, hraw, hsize⟩ | ⟨hsizeForm, hsize⟩
  · have hf : maxChunkSize.Malformed env := ⟨raw, htext, hraw⟩
    refine .inl ⟨maxChunkSize, .notInteger _ raw, hf, ?_, ?_, source_iff env hf⟩
    · intro g hg
      rcases hg.mem with rfl | rfl | rfl
      · exact absurd hg hcreateForm
      · exact Nat.le_refl _
      · exact Nat.le_succ _
    · rw [Environment.value, hcreate, hsize]
      rfl
  rcases env.flag?_cases "LOG_PRETTY" with
    ⟨raw, htext, hraw, hpretty⟩ | ⟨hprettyForm, pretty, hpretty⟩
  · have hf : Setting.pretty.Malformed env := ⟨raw, htext, hraw⟩
    refine .inl ⟨.pretty, .notBoolean _ raw, hf, ?_, ?_, source_iff env hf⟩
    · intro g hg
      rcases hg.mem with rfl | rfl | rfl
      · exact absurd hg hcreateForm
      · exact absurd hg hsizeForm
      · exact Nat.le_refl _
    · rw [Environment.value, hcreate, hsize, hpretty]
      rfl
  · refine .inr ⟨?_, create, pretty, env.value_ok hcreate hsize hpretty⟩
    intro s hs
    rcases hs.mem with rfl | rfl | rfl
    · exact hcreateForm hs
    · exact hsizeForm hs
    · exact hprettyForm hs

theorem issues_eq_nil_iff (hform : ∀ s : Setting, ¬s.Malformed env) {overall : List Issue}
    (hoverall : (credentials.Bad env ∧ overall = [⟨path credentials, .noCredentials⟩]) ∨
      (¬credentials.Bad env ∧ overall = [])) :
    ofFields.flatMap (issues env) ++
      (if (ofFields.flatMap (issues env)).any Issue.stops then [] else overall) = [] ↔
      ∀ s : Setting, ¬s.Bad env := by
  rw [List.append_eq_nil_iff]
  constructor
  · rintro ⟨hfields, hlast⟩ s hbad
    by_cases hs : s = credentials
    · subst hs
      rcases hoverall with ⟨-, rfl⟩ | ⟨hnot, -⟩
      · simp [hfields] at hlast
      · exact hnot hbad
    · obtain ⟨i, hi, -⟩ := (exists_at_iff env hform s).mpr ⟨hs, hbad⟩
      rw [hfields] at hi
      cases hi
  · intro hnone
    have hfields : ofFields.flatMap (issues env) = [] := by
      refine List.eq_nil_iff_forall_not_mem.mpr fun i hi => ?_
      obtain ⟨s, -, his⟩ := List.mem_flatMap.mp hi
      exact hnone s ((exists_at_iff env hform s).mp ⟨i, hi, (mem_issues env his).1⟩).2
    refine ⟨hfields, ?_⟩
    rcases hoverall with ⟨hbad, -⟩ | ⟨-, rfl⟩
    · exact absurd hbad (hnone _)
    · simp

end Setting

/-- The settings that an environment gives, or an error. Nothing is bad in an environment that
gives settings; an error names every setting that is bad and not hidden, and no other. -/
theorem ofEnvironment_names (env : Environment) :
    match Settings.ofEnvironment env with
    | .ok _ => ∀ s : Setting, ¬s.Bad env
    | .error e => (∃ s : Setting, s.Bad env) ∧ ∀ s, e.Names s ↔ s.Bad env ∧ ¬s.Hidden env := by
  unfold Settings.ofEnvironment
  rcases Setting.value_cases env with
    ⟨f, e, hf, hfirst, hvalue, hnames⟩ | ⟨hform, create, pretty, hvalue⟩
  · rw [hvalue]
    exact ⟨⟨f, hf.bad⟩, fun s => (hnames s).trans (Setting.eq_iff_of_first env hf hfirst s)⟩
  · have hfields := Setting.issues_checkFields env create pretty (hform .maxChunkSize)
    have hoverall := Setting.overallIssues_fields env create
      (env.number? "BLOBVFS_MAX_CHUNK_SIZE") pretty
    rw [hvalue]
    generalize Environment.compact (env.fields create _ pretty) = fields at hfields hoverall ⊢
    have hissues := Settings.issues_check fields
    have hexplains := Settings.check_explains (.record fields)
    rw [hfields] at hissues
    simp only [bind, Except.bind]
    cases hcheck : Settings.check (.record fields) with
    | ok settings =>
      rw [hcheck] at hissues
      exact (Setting.issues_eq_nil_iff env hform hoverall).mp hissues.symm
    | error is =>
      rw [hcheck] at hissues hexplains
      replace hissues : is = _ := hissues
      refine ⟨?_, ?_⟩
      · by_contra hnone
        refine hexplains (congrArg Except.error (hissues.trans ?_))
        exact (Setting.issues_eq_nil_iff env hform hoverall).mpr (by simpa using hnone)
      · rw [hissues]
        exact Setting.names_of_issues env hform hoverall

/-- With no variable set, an error names the container alone, though there are no credentials
either; and behind a variable that is no truth value it does not name the container. -/
theorem ofEnvironment_hides :
    Settings.ofEnvironment [] = .error (.badEnvironment ["container: Required"]) ∧
    Setting.credentials.Bad [] ∧
    ¬(SettingsError.badEnvironment ["container: Required"]).Names .credentials ∧
    Settings.ofEnvironment [("BLOBVFS_CREATE_CONTAINER", "maybe")] =
      .error (.notBoolean "BLOBVFS_CREATE_CONTAINER" "maybe") ∧
    Setting.container.Bad [("BLOBVFS_CREATE_CONTAINER", "maybe")] ∧
    ¬(SettingsError.notBoolean "BLOBVFS_CREATE_CONTAINER" "maybe").Names .container := by
  refine ⟨?_, ?_, ?_, ?_, ?_, ?_⟩
  · rfl
  · exact ⟨rfl, rfl, .inl rfl, rfl⟩
  · simp only [SettingsError.Names]
    decide
  · decide +kernel
  · rfl
  · simp [SettingsError.Names, Setting.source]

end BlobTree
