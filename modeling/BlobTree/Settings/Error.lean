import BlobTree.Settings.Issue

/-!
# BlobTree.Settings.Error

Why settings could not be had, with the wording and the details of each cause.
-/

namespace BlobTree

inductive SettingsError where
  | notBoolean (name raw : String)
  | notInteger (name raw : String)
  /-- The environment gave settings with these flaws, one line each. -/
  | badEnvironment (lines : List String)
  | missingFile (place : String)
  /-- The file, named as the caller named it, is not in the form of a document. -/
  | unreadable (file : String)
  /-- The file holds a document, but not settings. -/
  | badFile (file : String) (issues : List Issue)
  /-- The settings do not say how to reach the remote store. -/
  | noCredentials
  deriving DecidableEq, Inhabited

namespace SettingsError

/-- Stands for the reader's own account of what is wrong with a document, which is left out. -/
def readerAccount : String := "<yaml error>"

def message : SettingsError → String
  | .notBoolean name raw => name ++ " must be true or false, got \"" ++ raw ++ "\""
  | .notInteger name raw => name ++ " must be an integer, got \"" ++ raw ++ "\""
  | .badEnvironment lines =>
    "Invalid driver configuration from environment: " ++ "; ".intercalate lines
  | .missingFile place => "Config file not found: " ++ place
  | .unreadable file => "Failed to load config from " ++ file ++ ": " ++ readerAccount
  | .badFile file issues => "Failed to load config from " ++ file ++ ": " ++ Issue.report issues
  | .noCredentials => "Azure credentials required for azure BlobStore"

/-- What a program can read off an error besides its wording. -/
inductive Details where
  | key (name : String)
  | errors (lines : List String)
  | searchedPaths (places : List String)
  deriving DecidableEq

def details? : SettingsError → Option Details
  | .notBoolean name _ | .notInteger name _ => some (.key name)
  | .badEnvironment lines => some (.errors lines)
  | .missingFile place => some (.searchedPaths [place])
  | .unreadable _ | .badFile _ _ => none
  | .noCredentials => some (.key "azure")

end SettingsError
end BlobTree
