import Mathlib.Logic.Relation
import BlobTree.Proofs.Settings.WellFormed

/-!
# BlobTree.Proofs.Settings.Normal

Checked settings as a value to check again. What was accepted is accepted again as it is, defaults
and all, and names that no setting has make no difference, at the top or in a section.

* `Settings.value`: settings as a value, with the fields that they have; `parts_value`: each field
  is checked to the part that it was made from.
* `Gains`: a value with one field more, under a name that is not known where it stands;
  `check_gains`: the check finds the same in it, be it settings or issues.
* `check_normal`: so accepted settings are a normal form.
-/

namespace BlobTree

/-- The fields of an account, each with a value if the account has it. -/
def Account.entries (a : Account) : List (String × Option Value) :=
  [("connectionString", a.connectionString.map .text), ("accountName", a.accountName.map .text),
    ("accountKey", a.accountKey.map .text), ("realm", some (.text a.realm)),
    ("accountUrl", a.accountUrl.map .text)]

def Logging.entries (l : Logging) : List (String × Option Value) :=
  [("level", some (.text l.level.name)), ("pretty", some (.flag l.pretty))]

/-- The fields of settings, each with a value if the settings have it. -/
def Settings.entries (s : Settings) : List (String × Option Value) :=
  [("backend", some (.text s.store.name)), ("container", some (.text s.container)),
    ("rootDirectory", some (.text s.rootDirectory)),
    ("createContainer", some (.flag s.createContainer)),
    ("maxChunkSize", some (.number (.ofNat s.maxChunkSize))),
    ("azure", s.account.map fun a => .record (Environment.compact a.entries)),
    ("logging", some (.record (Environment.compact s.logging.entries)))]

def Settings.value (s : Settings) : Value :=
  .record (Environment.compact s.entries)

namespace Settings

open Checked

variable {fields wider : List (String × Value)} {s : Settings} {a : Account} {v w : Value}

theorem account_parts_entries (h : a.WellFormed) : a.Parts (Environment.compact a.entries) := by
  have hnames : (a.entries.map (·.1)).Nodup := accountNames_nodup
  have hfield : ∀ name v?, (name, v?) ∈ a.entries →
      Value.field (Environment.compact a.entries) name = v?.getD .absent :=
    fun name v? hmem => Environment.field_compact hnames hmem
  have hoptional : ∀ path text?, text? ≠ some "" →
      Checked.optional (nonEmpty path) ((text?.map Value.text).getD .absent) = .ok text? := by
    rintro path text? hne
    refine optional_texts ?_
    rintro raw rfl
    exact nonEmpty_text (by simpa using hne)
  refine {
    connectionString := ?_
    accountName := ?_
    accountKey := ?_
    realm := ?_
    accountUrl := ?_ }
  · rw [hfield _ (a.connectionString.map .text) (by simp [Account.entries])]
    exact hoptional _ _ h.connectionString
  · rw [hfield _ (a.accountName.map .text) (by simp [Account.entries])]
    exact hoptional _ _ h.accountName
  · rw [hfield _ (a.accountKey.map .text) (by simp [Account.entries])]
    exact hoptional _ _ h.accountKey
  · rw [hfield _ (some (.text a.realm)) (by simp [Account.entries])]
    exact nonEmpty_text h.realm
  · rw [hfield _ (a.accountUrl.map .text) (by simp [Account.entries])]
    exact optional_texts fun raw hraw => url_text (h.accountUrl raw hraw)

theorem checkLogging_entries (l : Logging) :
    checkLogging (.record (Environment.compact l.entries)) = .ok l := by
  have hlevel : Value.field (Environment.compact l.entries) "level" = .text l.level.name := rfl
  have hpretty : Value.field (Environment.compact l.entries) "pretty" = .flag l.pretty := rfl
  simp only [checkLogging, record, Except.bind, hlevel, hpretty, orElse, named_level]
  rfl

/-- The account of settings, which need not have one, is checked to itself. -/
theorem optional_account (h : s.WellFormed) :
    Checked.optional checkAccount
      ((s.account.map fun a => .record (Environment.compact a.entries)).getD .absent) =
        .ok s.account := by
  cases ha : s.account with
  | none => rfl
  | some a =>
    show (checkAccount (.record (Environment.compact a.entries))).map some = _
    rw [checkAccount_ok.mpr (account_parts_entries (h.account a ha))]
    rfl

theorem parts_value (h : s.WellFormed) : s.Parts (Environment.compact s.entries) := by
  have hnames : (s.entries.map (·.1)).Nodup := names_nodup
  have hfield : ∀ name v?, (name, v?) ∈ s.entries →
      Value.field (Environment.compact s.entries) name = v?.getD .absent :=
    fun name v? hmem => Environment.field_compact hnames hmem
  refine {
    store := ?_
    container := ?_
    rootDirectory := ?_
    createContainer := ?_
    maxChunkSize := ?_
    account := ?_
    logging := ?_ }
  · rw [hfield _ (some (.text s.store.name)) (by simp [entries])]
    exact named_store s.store _
  · rw [hfield _ (some (.text s.container)) (by simp [entries])]
    exact nonEmpty_text h.container
  · rw [hfield _ (some (.text s.rootDirectory)) (by simp [entries])]
    rfl
  · rw [hfield _ (some (.flag s.createContainer)) (by simp [entries])]
    rfl
  · rw [hfield _ (some (.number (.ofNat s.maxChunkSize))) (by simp [entries])]
    exact chunkSize_ofNat h.size_pos h.size_le
  · rw [hfield _ (s.account.map fun a => .record (Environment.compact a.entries))
      (by simp [entries])]
    exact optional_account h
  · rw [hfield _ (some (.record (Environment.compact s.logging.entries))) (by simp [entries])]
    exact checkLogging_entries s.logging

/-- A record with one field more, under a name that is not among some. -/
inductive Wider (known : List String) : Value → Value → Prop where
  | intro {name : String} (hname : name ∉ known) (front back : List (String × Value)) (v : Value) :
      Wider known (.record (front ++ back)) (.record (front ++ (name, v) :: back))

/-- A value with one field more under a name that no setting has: at the top, in an account or in a
logging section. -/
inductive Gains : Value → Value → Prop where
  | top {v w : Value} (h : Wider names v w) : Gains v w
  | account {v w : Value} (h : Wider accountNames v w) (front back : List (String × Value)) :
      Gains (.record (front ++ ("azure", v) :: back)) (.record (front ++ ("azure", w) :: back))
  | logging {v w : Value} (h : Wider loggingNames v w) (front back : List (String × Value)) :
      Gains (.record (front ++ ("logging", v) :: back)) (.record (front ++ ("logging", w) :: back))

section Wider

variable {front back : List (String × Value)} {known : List String} {name name' : String}

theorem field_append_cons (hne : name' ≠ name) :
    Value.field (front ++ (name', v) :: back) name = Value.field (front ++ back) name := by
  simp [Value.field, List.find?_append, hne]

/-- A field of a record counts unless one of its name comes after it, whatever values the two
have. -/
theorem field_cases (front back : List (String × Value)) (name : String) :
    (∀ v, Value.field (front ++ (name, v) :: back) name = v) ∨
      ∀ v w, Value.field (front ++ (name, v) :: back) name =
        Value.field (front ++ (name, w) :: back) name := by
  cases hlater : back.reverse.find? (·.1 = name) with
  | none => exact .inl fun v => by simp [Value.field, List.find?_append, hlater]
  | some field => exact .inr fun v w => by simp [Value.field, List.find?_append, hlater]

theorem Wider.exists_fields (h : Wider known v w) :
    ∃ fields wider, v = .record fields ∧ w = .record wider ∧
      ∀ name ∈ known, Value.field wider name = Value.field fields name := by
  cases h with
  | intro hunknown front back v =>
    refine ⟨_, _, rfl, rfl, fun name hname => field_append_cons ?_⟩
    rintro rfl
    exact hunknown hname

theorem checkAccount_wider (h : Wider accountNames v w) : checkAccount w = checkAccount v := by
  obtain ⟨fields, wider, rfl, rfl, hfields⟩ := h.exists_fields
  simp only [accountNames, List.forall_mem_cons] at hfields
  obtain ⟨hconnection, hname, hkey, hrealm, hurl, -⟩ := hfields
  simp only [checkAccount, record, Except.bind, hconnection, hname, hkey, hrealm, hurl]

theorem hasCredentials_wider (h : Wider accountNames v w) :
    hasCredentials w = hasCredentials v := by
  obtain ⟨fields, wider, rfl, rfl, hfields⟩ := h.exists_fields
  simp only [accountNames, List.forall_mem_cons] at hfields
  obtain ⟨hconnection, hname, hkey, -, hurl, -⟩ := hfields
  simp only [hasCredentials, hasText, hconnection, hname, hkey, hurl]

theorem checkLogging_wider (h : Wider loggingNames v w) : checkLogging w = checkLogging v := by
  obtain ⟨fields, wider, rfl, rfl, hfields⟩ := h.exists_fields
  simp only [loggingNames, List.forall_mem_cons] at hfields
  obtain ⟨hlevel, hpretty, -⟩ := hfields
  simp only [checkLogging, record, Except.bind, hlevel, hpretty]

/-- What is under a name is as good as something else for the check. -/
inductive Alike : String → Value → Value → Prop where
  | same (name : String) (v : Value) : Alike name v v
  | account {name : String} {v w : Value} (hname : name = "azure") (h : Wider accountNames v w) :
      Alike name v w
  | logging {name : String} {v w : Value} (hname : name = "logging") (h : Wider loggingNames v w) :
      Alike name v w

theorem Alike.account_eq (h : Alike "azure" v w) :
    Checked.optional checkAccount w = Checked.optional checkAccount v ∧
      hasCredentials w = hasCredentials v := by
  cases h with
  | same => exact ⟨rfl, rfl⟩
  | account _ h =>
    refine ⟨?_, hasCredentials_wider h⟩
    have hcheck := checkAccount_wider h
    obtain ⟨fields, wider, rfl, rfl, -⟩ := h.exists_fields
    simp only [Checked.optional, hcheck]
  | logging hname => exact absurd hname (by decide)

theorem Alike.logging_eq (h : Alike "logging" v w) :
    orElse {} checkLogging w = orElse {} checkLogging v := by
  cases h with
  | same => rfl
  | account hname => exact absurd hname (by decide)
  | logging _ h =>
    have hcheck := checkLogging_wider h
    obtain ⟨fields, wider, rfl, rfl, -⟩ := h.exists_fields
    simpa only [orElse] using hcheck

theorem Alike.eq (h : Alike name v w) (hazure : name ≠ "azure") (hlogging : name ≠ "logging") :
    w = v := by
  cases h with
  | same => rfl
  | account hname => exact absurd hname hazure
  | logging hname => exact absurd hname hlogging

/-- The check finds the same in two records if it does under each known name. -/
theorem check_alike
    (h : ∀ name ∈ names, Alike name (Value.field fields name) (Value.field wider name)) :
    check (.record wider) = check (.record fields) := by
  have hplain : ∀ name ∈ names, name ≠ "azure" → name ≠ "logging" →
      Value.field wider name = Value.field fields name :=
    fun name hname => (h name hname).eq
  have hstore := hplain "backend" (by decide) (by decide) (by decide)
  have hcontainer := hplain "container" (by decide) (by decide) (by decide)
  have hroot := hplain "rootDirectory" (by decide) (by decide) (by decide)
  have hcreate := hplain "createContainer" (by decide) (by decide) (by decide)
  have hsize := hplain "maxChunkSize" (by decide) (by decide) (by decide)
  obtain ⟨haccount, hcredentials⟩ := (h "azure" (by decide)).account_eq
  have hlogging := (h "logging" (by decide)).logging_eq
  have hfields : checkFields wider = checkFields fields := by
    simp only [checkFields, hstore, hcontainer, hroot, hcreate, hsize, haccount, hlogging]
  have hasks : asksRemote wider = asksRemote fields := by
    rw [asksRemote, asksRemote, hstore]
  have hoverall : overallIssues wider = overallIssues fields := by
    rw [overallIssues, overallIssues, hasks, hcredentials]
  simp only [check, record, Except.bind, hfields, hoverall]

/-- Of two records that differ in one field the fields are alike if the values of that one are. -/
theorem check_field (h : Alike name' v w) :
    check (.record (front ++ (name', w) :: back)) =
      check (.record (front ++ (name', v) :: back)) := by
  refine check_alike fun name _ => ?_
  by_cases hname : name' = name
  · subst hname
    rcases field_cases front back name' with hcounts | hlater
    · rw [hcounts v, hcounts w]
      exact h
    · rw [hlater v w]
      exact .same _ _
  · rw [field_append_cons hname, field_append_cons hname]
    exact .same _ _

theorem check_gains (h : Gains v w) : check w = check v := by
  cases h with
  | top h =>
    obtain ⟨fields, wider, rfl, rfl, hfields⟩ := h.exists_fields
    refine check_alike fun name hname => ?_
    rw [hfields name hname]
    exact .same _ _
  | account h front back => exact check_field (.account rfl h)
  | logging h front back => exact check_field (.logging rfl h)

theorem check_widened (h : Relation.ReflTransGen Gains v w) : check w = check v := by
  induction h with
  | refl => rfl
  | tail _ hgains ih => rw [check_gains hgains, ih]

end Wider

/-- Settings that were accepted are a normal form: they are accepted as they are and lead to
themselves, and a value leads to them with whatever is added under unknown names. -/
theorem check_normal (h : check v = .ok s) :
    check s.value = .ok s ∧ ∀ w, Relation.ReflTransGen Gains v w → check w = .ok s := by
  have hwell := wellFormed_of_check h
  refine ⟨(parts_value hwell).check hwell, fun w hw => ?_⟩
  rw [check_widened hw, h]

/-- A value with a section of each kind, and the same with an unknown name in all three places. -/
theorem check_normal_widened :
    let v : Value := .record [("container", .text "c"),
      ("azure", .record [("connectionString", .text "k=v")]), ("logging", .record [])]
    let w : Value := .record [("container", .text "c"),
      ("azure", .record [("connectionString", .text "k=v"), ("backend", .flag true)]),
      ("logging", .record [("azure", .null)]), ("connectionString", .number .nan)]
    ∃ s, check v = .ok s ∧ check s.value = .ok s ∧ check w = .ok s ∧
      s.value = .record [("backend", .text "azure"), ("container", .text "c"),
        ("rootDirectory", .text ""), ("createContainer", .flag true),
        ("maxChunkSize", .number (.ofNat 4194304)),
        ("azure", .record [("connectionString", .text "k=v"),
          ("realm", .text "core.windows.net")]),
        ("logging", .record [("level", .text "info"), ("pretty", .flag false)])] := by
  intro v w
  let s : Settings :=
    { container := "c", maxChunkSize := maxChunk,
      account := some { connectionString := some "k=v" } }
  have hcheck : check v = .ok s := by decide +kernel
  obtain ⟨hself, hwidened⟩ := check_normal hcheck
  have haccount : Wider accountNames (.record [("connectionString", .text "k=v")])
      (.record [("connectionString", .text "k=v"), ("backend", .flag true)]) :=
    .intro (by decide) [("connectionString", .text "k=v")] [] (.flag true)
  have hlogging : Wider loggingNames (.record []) (.record [("azure", .null)]) :=
    .intro (by decide) [] [] .null
  refine ⟨s, hcheck, hself, hwidened w ?_, rfl⟩
  refine .tail (.tail (.single (.account haccount [("container", .text "c")] _))
    (.logging hlogging [("container", .text "c"), _] [])) (.top ?_)
  exact .intro (by decide) [("container", .text "c"), _, _] [] (.number .nan)

end Settings
end BlobTree
