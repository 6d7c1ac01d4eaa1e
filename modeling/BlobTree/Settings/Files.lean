import BlobTree.Path
import BlobTree.Settings.Environment
import BlobTree.Yaml.Document

/-!
# BlobTree.Settings.Files

Settings from files. A file is named by a path, absolute or from a working directory, in which
empty steps, `.` and `..` are allowed.

* `Files.load`: the settings in a file, or one error. `Files.tryLoad`: the same with a line for
  each flaw. `Files.find`: the file named in the environment, else the first file at one of the
  usual places, else the environment alone.
-/

namespace BlobTree

/-- A working directory and the files below it. -/
structure Files where
  /-- What the working directory is called. -/
  directory : String
  /-- The steps from the root to the working directory. -/
  location : List Name
  /-- Paths from the working directory, and texts. -/
  entries : List (String × String)

namespace Files

/-- Follows the steps of a path; a step up from the root stays there. -/
def follow (here steps : List Name) : List Name :=
  steps.foldl
    (fun here s => if s = [] ∨ s = ['.'] then here else if s = ['.', '.'] then here.dropLast
      else here ++ [s]) here

def isAbsolute (path : String) : Bool :=
  path.toList.head? = some Path.separator

/-- The steps from the root to what a path names. -/
def place (f : Files) (path : String) : List Name :=
  follow (if isAbsolute path then [] else f.location) (path.toList.splitOn Path.separator)

def fullName (f : Files) (path : String) : String :=
  let steps := f.place path
  if f.location.isPrefixOf steps then
    f.directory ++ String.ofList (Path.ofSegments (steps.drop f.location.length))
  else if steps.isEmpty then "/"
  else String.ofList (Path.ofSegments steps)

inductive Named where
  | file (text : String)
  | directory
  | nothing

def named (f : Files) (path : String) : Named :=
  let steps := f.place path
  match f.entries.find? fun e => f.place e.1 = steps with
  | some (_, text) => .file text
  | none =>
    if (f.location :: f.entries.map (f.place ·.1)).any steps.isPrefixOf then .directory
    else .nothing

def holds (f : Files) (path : String) : Bool :=
  match f.named path with
  | .nothing => false
  | _ => true

inductive Flaw where
  | missing
  | unreadable
  | issues (xs : List Issue)

/-- Settings are a record with records in it. -/
def depth : Nat := 2

def read (f : Files) (path : String) : Except Flaw Settings :=
  match f.named path with
  | .nothing => .error .missing
  | .directory => .error .unreadable
  | .file text =>
    match Yaml.read? depth text.toList with
    | none => .error .unreadable
    | some v => (Settings.check v).mapError .issues

def load (f : Files) (path : String) : Except SettingsError Settings :=
  (f.read path).mapError fun
    | .missing => .missingFile (f.fullName path)
    | .unreadable => .unreadable path
    | .issues xs => .badFile path xs

def tryLoad (f : Files) (path : String) : Except (List String) Settings :=
  (f.read path).mapError fun
    | .missing => [(SettingsError.missingFile (f.fullName path)).message]
    | .unreadable => ["Failed to parse YAML: " ++ SettingsError.readerAccount]
    | .issues xs => xs.map Issue.line

/-- Where a file of settings is looked for, in order. -/
def usualPlaces : List String :=
  ["blobvfs.config.yaml", "blobvfs.config.yml", "config/blobvfs.yaml", "config/blobvfs.yml"]

def find (f : Files) (env : Environment) : Except SettingsError Settings :=
  match env.text? "BLOBVFS_CONFIG_PATH" with
  | some path => f.load path
  | none =>
    match usualPlaces.find? f.holds with
    | some path => f.load path
    | none => Settings.ofEnvironment env

end Files
end BlobTree
