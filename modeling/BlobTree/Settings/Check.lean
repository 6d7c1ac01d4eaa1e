import BlobTree.Settings.Basic
import BlobTree.Settings.Issue
import BlobTree.Settings.Url

/-!
# BlobTree.Settings.Check

Checking settings. Every field is looked at, so all issues are found and come in the order of the
fields; names that are not known are passed over, and absent fields take their defaults. Last the
settings are looked at as a whole: a remote store needs credentials.

* `Settings.check`: the checked settings, or every issue.
-/

namespace BlobTree

/-- A checked value or the issues with it. -/
abbrev Checked (α : Type) := Except (List Issue) α

namespace Checked

variable {α β : Type}

/-- Two checks, neither of which hides the other's issues. -/
def both : Checked α → Checked β → Checked (α × β)
  | .ok a, .ok b => .ok (a, b)
  | .error e, .ok _ => .error e
  | .ok _, .error e => .error e
  | .error e, .error f => .error (e ++ f)

def flaw (path : List String) (cause : Issue.Cause) : Checked α :=
  .error [⟨path, cause⟩]

variable (path : List String)

def text : Value → Checked String
  | .text s => .ok s
  | v => flaw path (.wrongKind "string" v.kindName)

def nonEmpty (v : Value) : Checked String :=
  (text path v).bind fun s => if s.isEmpty then flaw path .emptyText else .ok s

def url (v : Value) : Checked String :=
  (text path v).bind fun s => if Url.isValid s.toList then .ok s else flaw path .badUrl

def flag : Value → Checked Bool
  | .flag b => .ok b
  | v => flaw path (.wrongKind "boolean" v.kindName)

def named (options : List String) (ofName? : String → Option α) : Value → Checked α
  | .text s =>
    match ofName? s with
    | some a => .ok a
    | none => flaw path (.unknownName options s)
  | v => flaw path (.noName options v.kindName)

/-- What is wrong with a number as a chunk size; several things can be. -/
def chunkFlaws (n : Number) : List Issue.Cause :=
  (if n.toInt?.isNone then [.fractional] else []) ++
    (if n.le (.ofNat 0) then [.notPositive] else []) ++
    (if (Number.ofNat Settings.maxChunk).lt n then [.tooBig Settings.maxChunk] else [])

def chunkSize : Value → Checked Nat
  | .number n =>
    if n = .nan then flaw path (.wrongKind "number" "nan")
    else match chunkFlaws n, n.toPositive? with
      | [], some size => .ok size
      | flaws, _ => .error (flaws.map fun cause => ⟨path, cause⟩)
  | v => flaw path (.wrongKind "number" v.kindName)

def optional (check : Value → Checked α) : Value → Checked (Option α)
  | .absent => .ok none
  | v => (check v).map some

/-- A value that stands for itself when it is not there. -/
def orElse (default : α) (check : Value → Checked α) : Value → Checked α
  | .absent => .ok default
  | v => check v

/-- The fields of a record. Bytes are a record without names. -/
def record (v : Value) : Checked (List (String × Value)) :=
  match v with
  | .record fields => .ok fields
  | .bytes => .ok []
  | v => flaw path (.wrongKind "object" v.kindName)

end Checked

namespace Settings

open Checked

def checkAccount (v : Value) : Checked Account :=
  (record ["azure"] v).bind fun fields =>
    let given (name : String) (check : List String → Value → Checked String) :=
      optional (check ["azure", name]) (Value.field fields name)
    let realm := orElse "core.windows.net" (nonEmpty ["azure", "realm"])
      (Value.field fields "realm")
    (both (given "connectionString" nonEmpty) <| both (given "accountName" nonEmpty) <|
      both (given "accountKey" nonEmpty) <| both realm (given "accountUrl" url)).map
      fun (connectionString, accountName, accountKey, realm, accountUrl) =>
        { connectionString, accountName, accountKey, realm, accountUrl }

def checkLogging (v : Value) : Checked Logging :=
  (record ["logging"] v).bind fun fields =>
    let level := orElse .info
      (named ["logging", "level"] (Level.all.map Level.name) Level.ofName?)
      (Value.field fields "level")
    let pretty := orElse false (flag ["logging", "pretty"]) (Value.field fields "pretty")
    (both level pretty).map fun (level, pretty) => { level, pretty }

def checkFields (fields : List (String × Value)) : Checked Settings :=
  let value (name : String) := Value.field fields name
  let store := orElse .azure
    (named ["backend"] (StoreKind.all.map StoreKind.name) StoreKind.ofName?) (value "backend")
  let container := nonEmpty ["container"] (value "container")
  let rootDirectory := orElse "" (text ["rootDirectory"]) (value "rootDirectory")
  let createContainer := orElse true (flag ["createContainer"]) (value "createContainer")
  let maxChunkSize := orElse maxChunk (chunkSize ["maxChunkSize"]) (value "maxChunkSize")
  let account := optional checkAccount (value "azure")
  let logging := orElse {} checkLogging (value "logging")
  (both store <| both container <| both rootDirectory <| both createContainer <|
    both maxChunkSize <| both account logging).map
    fun (store, container, rootDirectory, createContainer, maxChunkSize, account, logging) =>
      { store, container, rootDirectory, createContainer, maxChunkSize, account, logging }

/-- Whether a field holds a text that is not empty. -/
def hasText (fields : List (String × Value)) (name : String) : Bool :=
  match Value.field fields name with
  | .text s => !s.isEmpty
  | _ => false

/-- Whether an account says how to reach the store. -/
def hasCredentials (account : Value) : Bool :=
  match account with
  | .record fields =>
    hasText fields "connectionString" ||
      (hasText fields "accountName" && hasText fields "accountKey") || hasText fields "accountUrl"
  | _ => false

/-- Whether the settings ask for a remote store, as they do when they name none. -/
def asksRemote (fields : List (String × Value)) : Bool :=
  match Value.field fields "backend" with
  | .absent => true
  | .text s => s = StoreKind.azure.name
  | _ => false

def overallIssues (fields : List (String × Value)) : List Issue :=
  if asksRemote fields && !hasCredentials (Value.field fields "azure") then
    [⟨["azure"], .noCredentials⟩]
  else []

def check (v : Value) : Checked Settings :=
  (record [] v).bind fun fields =>
    match checkFields fields with
    | .error issues =>
      if issues.any Issue.stops then .error issues else .error (issues ++ overallIssues fields)
    | .ok settings =>
      match overallIssues fields with
      | [] => .ok settings
      | issues => .error issues

end Settings
end BlobTree
