import BlobTree.Cloud.Store
import BlobTree.FileTree
import BlobTree.Settings.Check
import BlobTree.Store.Memory

/-!
# BlobTree.Deployment

Putting checked settings to use: logging is set up first, then the store is chosen, its container
is created if the settings ask for it, and the tree is laid over it.

* `Settings.deploy` works over any store; `Settings.target` says which store the settings ask for.
-/

namespace BlobTree

inductive StoreTarget where
  | memory
  | remote (credentials : Credentials) (container : String)
  deriving DecidableEq, Inhabited

namespace Settings

def target (s : Settings) : Except SettingsError StoreTarget :=
  match s.store with
  | .inMemory => .ok .memory
  | .azure => s.credentials.map fun c => .remote c s.container

def rootLogger (s : Settings) : Logger :=
  { threshold := s.logging.level }

/-- The logger of a tree that was made from settings. -/
def treeLogger (s : Settings) : Logger :=
  s.rootLogger.child
    [("component", .text "blob-driver"), ("backend", .text s.store.name),
      ("container", .text s.container)]

def tree {σ : Type} (s : Settings) (b : Backend σ) : FileTree :=
  FileTree.onStore b
    { rootDirectory := s.rootDirectory.toList, maxChunkSize := some (.ofNat s.maxChunkSize) }
    s.rootLogger (some s.treeLogger)

variable {σ : Type}

def configure (s : Settings) : Action σ Unit :=
  Action.of fun w =>
    (.ok (), { w with journal := { w.journal with replaced := w.journal.replaced ++ [s.logging] } })

/-- Creates the container if the settings ask for it, and lays the tree over the store. -/
def connect (s : Settings) (b : Backend σ) : Action σ FileTree := do
  if s.createContainer then Action.call b .createContainer
  Action.log s.treeLogger .info [("rootDirectory", .text s.rootDirectory)] "driver ready"
  return s.tree b

def deploy (s : Settings) (b : Backend σ) : Action σ FileTree := do
  s.configure
  s.connect b

end Settings

/-- A memory store warns of itself where it should not be used. -/
def Memory.announce {σ : Type} (environmentName : Option String) (rootLogger : Logger) :
    Action σ Unit :=
  if environmentName = some "production" then
    Action.log rootLogger .warn [("component", .text "in-memory-blob-store")]
      "Using in-memory blob store in production. Contents are lost on restart."
  else pure ()

end BlobTree
