import BlobTree.Journal

/-!
# BlobTree.Settings.Basic

Settings that have been checked: which store to use and how, where the tree lives in it and how
to report.
-/

namespace BlobTree

inductive StoreKind where
  | azure
  | inMemory
  deriving DecidableEq, Repr, Inhabited

namespace StoreKind

def name : StoreKind → String
  | .azure => "azure"
  | .inMemory => "inmemory"

def all : List StoreKind := [.azure, .inMemory]

def ofName? (s : String) : Option StoreKind :=
  all.find? (·.name = s)

end StoreKind

/-- How to reach a remote store. Nothing here is empty. -/
structure Account where
  connectionString : Option String := none
  accountName : Option String := none
  accountKey : Option String := none
  realm : String := "core.windows.net"
  accountUrl : Option String := none
  deriving DecidableEq, Inhabited

structure Settings where
  store : StoreKind := .azure
  container : String
  rootDirectory : String := ""
  createContainer : Bool := true
  /-- Positive, and at most `Settings.maxChunk`. -/
  maxChunkSize : Nat
  account : Option Account := none
  logging : Logging := {}
  deriving DecidableEq, Inhabited

/-- The largest chunk that settings may ask for, 4 MiB. -/
def Settings.maxChunk : Nat := 4 * 1024 * 1024

end BlobTree
