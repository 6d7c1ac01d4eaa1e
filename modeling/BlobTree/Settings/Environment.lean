import BlobTree.Number.Numeral
import BlobTree.Settings.Check
import BlobTree.Settings.Error

/-!
# BlobTree.Settings.Environment

Settings from environment variables. A variable that is not set or empty is absent; two of them
are truth values, one is a whole number, and the others stand for themselves.

* `Environment.value`: the settings as a value to check. `Settings.ofEnvironment`: the checked
  settings, or every flaw in one error.
-/

namespace BlobTree

abbrev Environment := List (String × String)

namespace Environment

def get? (env : Environment) (name : String) : Option String :=
  (env.find? (·.1 = name)).map (·.2)

def text? (env : Environment) (name : String) : Option String :=
  (env.get? name).filter (!·.isEmpty)

/-- A truth value: `true` or `1`, `false` or `0`, in any case and with blanks around it. -/
def flag? (env : Environment) (name : String) : Except SettingsError (Option Bool) :=
  match env.text? name with
  | none => .ok none
  | some raw =>
    let word := Text.lower (Text.trim raw.toList)
    if word = "true".toList ∨ word = ['1'] then .ok (some true)
    else if word = "false".toList ∨ word = ['0'] then .ok (some false)
    else .error (.notBoolean name raw)

def integer? (env : Environment) (name : String) : Except SettingsError (Option Number) :=
  match env.text? name with
  | none => .ok none
  | some raw =>
    let n := Number.ofText raw.toList
    if n.toInt?.isSome then .ok (some n) else .error (.notInteger name raw)

/-- The fields that have a value. -/
def compact (fields : List (String × Option Value)) : List (String × Value) :=
  fields.filterMap fun (name, value?) => value?.map (name, ·)

/-- The settings that the variables give, not yet checked. -/
def value (env : Environment) : Except SettingsError Value := do
  let text (name : String) := (env.text? name).map Value.text
  let account := compact
    [("connectionString", text "AZURE_STORAGE_CONNECTION_STRING"),
      ("accountName", text "AZURE_STORAGE_ACCOUNT"), ("accountKey", text "AZURE_STORAGE_KEY"),
      ("realm", text "AZURE_STORAGE_REALM"), ("accountUrl", text "AZURE_STORAGE_ACCOUNT_URL")]
  let createContainer ← env.flag? "BLOBVFS_CREATE_CONTAINER"
  let maxChunkSize ← env.integer? "BLOBVFS_MAX_CHUNK_SIZE"
  let pretty ← env.flag? "LOG_PRETTY"
  let logging := compact [("level", text "LOG_LEVEL"), ("pretty", pretty.map Value.flag)]
  return .record <| compact
    [("backend", text "BLOBVFS_BACKEND"), ("container", text "AZURE_STORAGE_CONTAINER"),
      ("rootDirectory", text "BLOBVFS_ROOT_DIRECTORY"),
      ("createContainer", createContainer.map Value.flag),
      ("maxChunkSize", maxChunkSize.map Value.number),
      ("azure", if account.isEmpty then none else some (.record account)),
      ("logging", some (.record logging))]

end Environment

def Settings.ofEnvironment (env : Environment) : Except SettingsError Settings := do
  match check (← env.value) with
  | .ok settings => return settings
  | .error issues => throw (.badEnvironment (issues.map Issue.line))

end BlobTree
