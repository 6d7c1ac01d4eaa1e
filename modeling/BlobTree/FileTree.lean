import BlobTree.Entry
import BlobTree.Listing
import BlobTree.Walk
import BlobTree.Writer.Session

/-!
# BlobTree.FileTree

The tree of files over a flat store. A file is an object; a directory is there as long as some
key lies below it. Every operation asks the store one thing after another, and nothing it is told
is kept from one operation to the next.

* Paths are checked before anything else; all operations but `urlFor` and `walk` are counted.
* A failure to find an object is reported as the path it stands for (`Failure.atPath`); every
  other failure of the store is passed on as it is.
-/

namespace BlobTree

structure FileTree where
  root : Root
  /-- The largest chunk a writer may append; not checked before a writer is opened. -/
  maxChunkSize : Number
  logger : Logger
  /-- Pages that one listing may take. -/
  pageBudget : Nat
  /-- Levels that one walk may go down. -/
  depthBudget : Nat
  deriving DecidableEq, Inhabited

namespace FileTree

structure Options where
  rootDirectory : Name := []
  /-- Capped at what the store accepts; absent, it is what the store accepts. -/
  maxChunkSize : Option Number := none
  pageBudget : Nat := 1000000
  depthBudget : Nat := 1000000
  deriving Inhabited

/-- A tree over a store. Without a logger of its own it reports to a child of the root logger. -/
def onStore {σ : Type} (b : Backend σ) (o : Options) (rootLogger : Logger)
    (logger : Option Logger := none) : FileTree :=
  let root := Root.ofDir o.rootDirectory
  { root
    maxChunkSize := (o.maxChunkSize.getD b.maxAppendSize).min b.maxAppendSize
    logger := logger.getD (rootLogger.child
      [("component", .text "blob-driver"), ("root", .text (String.ofList root.key))])
    pageBudget := o.pageBudget
    depthBudget := o.depthBudget }

variable {σ α : Type} (t : FileTree) (b : Backend σ)

/-- Does something for a path that is valid. -/
def onPath (path : Name) (x : Action σ α) : Action σ α :=
  if Path.isValid path then x else Action.fail (.invalidPath path)

/-- Does something for a path that is valid or the root. -/
def onDirectory (path : Name) (x : Action σ α) : Action σ α :=
  if Path.isDirectory path then x else Action.fail (.invalidPath path)

def counted (operation : String) (x : Action σ α) : Action σ α :=
  Action.measured ("driver.".toList ++ operation.toList) x

/-- A call about the object that stands for a path. -/
def callAt (path : Name) (c : Call) : Action σ c.Reply :=
  Action.mapFailure (Failure.atPath path) (Action.call b c)

def properties? (key : Name) : Action σ (Option Properties) := do
  match ← Action.attempt (Action.call b (.properties key)) with
  | .ok p => return some p
  | .error (.store (.notFound _)) => return none
  | .error f => Action.fail f

def textField (name : String) (s : Name) : String × Field :=
  (name, .text (String.ofList s))

def getContent (path : Name) : Action σ Bytes :=
  onPath path <| counted "getContent" <| callAt b path (.get (t.root.keyOf path))

/-- Overwrites a file in one call. An object of another kind cannot be overwritten and is deleted
first, so between the two calls the path does not exist. -/
def putContent (path : Name) (data : Bytes) : Action σ Unit :=
  onPath path <|
    if b.maxPutSize.lt (.ofNat data.length) then
      Action.fail (.sizeLimit path data.length b.maxPutSize)
    else counted "putContent" do
      let key := t.root.keyOf path
      if let some existing ← properties? b key then
        if existing.kind ≠ .block then
          Action.log t.logger .info
            [textField "path" path, ("objectType", .text existing.kind.name),
              ("size", .number existing.size)] "replacing legacy blob with block blob"
          callAt b path (.delete key)
      Action.call b (.put key data)

/-- The file's bytes from an offset on, as a stream; at or past the end it is empty. -/
def reader (path : Name) (offset : Number) : Action σ ByteStream :=
  onPath path <|
    if offset.toInt?.all (· < 0) then Action.fail (.invalidOffset path offset)
    else counted "reader" do
      let key := t.root.keyOf path
      match ← properties? b key with
      | none => Action.fail (.pathNotFound path)
      | some p => if p.size.le offset then return {} else callAt b path (.read key offset)

/-- Opens a writer session: on an empty object that takes the place of what was there, or, to
append, on the object that is there. -/
def writer (path : Name) (append : Bool) : Action σ Writer :=
  onPath path <| counted "writer" do
    let key := t.root.keyOf path
    let present ← Action.call b (.exists key)
    let size ←
      if present ∧ append then
        match ← properties? b key with
        | none => Action.fail (.pathNotFound path)
        | some p => pure p.size
      else if append then Action.fail (.pathNotFound path)
      else do
        if present then callAt b path (.delete key)
        Action.call b (.createAppendable key)
        pure (Number.ofNat 0)
    Action.log t.logger .debug
      [textField "path" path, ("append", .flag append), ("size", .number size)] "writer opened"
    Action.ofExcept <| Writer.start path key size t.maxChunkSize
      (some (t.logger.child [textField "writer" path]))

/-- What stands at a path: the file of that name, else the directory if a key lies below it. -/
def stat (path : Name) : Action σ Entry :=
  onDirectory path <| counted "stat" do
    let key := t.root.keyOf path
    let file? ← do
      if path ≠ Path.root then
        if ← Action.call b (.exists key) then properties? b key else pure none
      else pure none
    match file? with
    | some p => return .file path p.size p.modTime
    | none =>
      let page ← Action.call b
        (.listPage (t.root.listingPrefix path) { maxResults := some (.ofNat 1) })
      if page.keys.isEmpty then Action.fail (.pathNotFound path) else return .directory path

/-- The paths right below a directory. Only the root may have none. -/
def list (path : Name) : Action σ (List Name) :=
  onDirectory path <|
    let start := if path = Path.root then [] else path
    counted "list" do
      let children := Listing.children (← Listing.below b t.root t.pageBudget start) start
      if start ≠ [] ∧ children = [] then Action.fail (.pathNotFound path) else return children

/-- Copies an object and deletes the first one. If the second step fails both are there. -/
def move (source dest : Name) : Action σ Unit :=
  onPath source <| onPath dest <| counted "move" do
    callAt b source (.copy (t.root.keyOf source) (t.root.keyOf dest))
    callAt b source (.delete (t.root.keyOf source))

/-- Deletes the file at a path or, if there is none, every file below it. -/
def delete (path : Name) : Action σ Unit :=
  onPath path <| counted "delete" do
    unless ← Action.call b (.deleteIfExists (t.root.keyOf path)) do
      let files ← Listing.below b t.root t.pageBudget path
      if files = [] then Action.fail (.pathNotFound path)
      files.forM fun file => callAt b file (.delete (t.root.keyOf file))
      Action.log t.logger .debug
        [textField "path" path, ("count", .number (.ofNat files.length))]
        "deleted virtual directory"

/-- Addresses of files depend on the store and are not given out here. -/
def urlFor (path : Name) : Action σ String :=
  onPath path <| Action.fail (.unsupported "urlFor")

def walk (path : Name) (visit : Entry → Action σ Visit) : Action σ Unit :=
  onDirectory path <|
    Walk.visitBelow ⟨t.list b, t.stat b⟩ visit (some t.logger) t.depthBudget path

end FileTree
end BlobTree
