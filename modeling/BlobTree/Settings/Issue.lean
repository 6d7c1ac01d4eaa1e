import BlobTree.Settings.Value
import BlobTree.Text.Quoted

/-!
# BlobTree.Settings.Issue

What can be wrong with a value in the settings, each with its place, its wording and its fields
in a report.

* `Issue.line`: one line for a person. `Issue.report`: all fields of all issues.
* `Issue.stops`: the issues after which the settings are not looked at as a whole.
-/

namespace BlobTree

namespace Issue

inductive Cause where
  /-- A value of the wrong kind, or none where one is needed. -/
  | wrongKind (expected received : String)
  /-- A value that is no text where one of some names is needed. -/
  | noName (options : List String) (received : String)
  | unknownName (options : List String) (received : String)
  | emptyText
  | fractional
  | notPositive
  | tooBig (maximum : Nat)
  | badUrl
  /-- The settings as a whole do not say how to reach the store. -/
  | noCredentials
  deriving DecidableEq, Inhabited

end Issue

structure Issue where
  path : List String
  cause : Issue.Cause
  deriving DecidableEq, Inhabited

namespace Issue

/-- The names in quotes with bars between them. -/
def alternatives (options : List String) : String :=
  " | ".intercalate (options.map fun o => "'" ++ o ++ "'")

def message (i : Issue) : String :=
  match i.cause with
  | .wrongKind expected received =>
    if received = "undefined" then "Required"
    else "Expected " ++ expected ++ ", received " ++ received
  | .noName options received =>
    "Expected " ++ alternatives options ++ ", received " ++ received
  | .unknownName options received =>
    "Invalid enum value. Expected " ++ alternatives options ++ ", received '" ++ received ++ "'"
  | .emptyText => "String must contain at least 1 character(s)"
  | .fractional => "Expected integer, received float"
  | .notPositive => "Number must be greater than 0"
  | .tooBig maximum => "Number must be less than or equal to " ++ toString maximum
  | .badUrl => "Invalid url"
  | .noCredentials =>
    "azure backend requires connectionString, accountName and accountKey, or accountUrl"

/-- Whether the settings are not looked at as a whole after this issue. -/
def stops (i : Issue) : Bool :=
  match i.cause with
  | .wrongKind _ _ | .noName _ _ | .unknownName _ _ => true
  | _ => false

def line (i : Issue) : String :=
  let place := ".".intercalate i.path
  if place.isEmpty then i.message else place ++ ": " ++ i.message

def fields (i : Issue) : List (String × Quoted.Field) :=
  let path := ("path", .texts i.path)
  let message := ("message", .text i.message)
  match i.cause with
  | .wrongKind expected received =>
    [("code", .text "invalid_type"), ("expected", .text expected), ("received", .text received),
      path, message]
  | .noName options received =>
    [("expected", .text (alternatives options)), ("received", .text received),
      ("code", .text "invalid_type"), path, message]
  | .unknownName options received =>
    [("received", .text received), ("code", .text "invalid_enum_value"),
      ("options", .texts options), path, message]
  | .emptyText =>
    [("code", .text "too_small"), ("minimum", .count 1), ("type", .text "string"),
      ("inclusive", .flag true), ("exact", .flag false), message, path]
  | .fractional =>
    [("code", .text "invalid_type"), ("expected", .text "integer"), ("received", .text "float"),
      message, path]
  | .notPositive =>
    [("code", .text "too_small"), ("minimum", .count 0), ("type", .text "number"),
      ("inclusive", .flag false), ("exact", .flag false), message, path]
  | .tooBig maximum =>
    [("code", .text "too_big"), ("maximum", .count maximum), ("type", .text "number"),
      ("inclusive", .flag true), ("exact", .flag false), message, path]
  | .badUrl =>
    [("validation", .text "url"), ("code", .text "invalid_string"), message, path]
  | .noCredentials => [("code", .text "custom"), path, message]

def report (issues : List Issue) : String :=
  Quoted.renderRecords (issues.map fields)

end Issue
end BlobTree
