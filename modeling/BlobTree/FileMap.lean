import BlobTree.FileTree.Request

/-!
# BlobTree.FileMap

Files as their users think of them: a finite map from valid paths to contents, with no keys, no
pages and no calls on a store. It is what the tree of files over a store is compared with.

* `FileMap.perform`: what each operation answers and does to the map; `FileMap.run` does a list.
-/

namespace BlobTree

structure File where
  data : Bytes
  kind : ObjectKind
  deriving DecidableEq, Inhabited

/-- A finite map from valid paths. -/
structure FileMap where
  map : KeyMap File
  valid : ∀ p ∈ map.keys, Path.isValid p

namespace FileMap

/-- The limits that the answers depend on. -/
structure Limits where
  /-- The most bytes that a file can be overwritten with at once. -/
  maxPutSize : Number
  /-- A session opens if this is a whole number above zero. -/
  maxChunkSize : Number

def empty : FileMap where
  map := KeyMap.empty
  valid _ hp := absurd hp List.not_mem_nil

variable (fs : FileMap)

def get? (p : Name) : Option File :=
  fs.map.get? p

def put (p : Name) (hp : Path.isValid p) (f : File) : FileMap where
  map := fs.map.insert p f
  valid q hq := by
    rw [KeyMap.mem_keys, KeyMap.get?_insert] at hq
    split at hq
    · next h => exact h ▸ hp
    · exact fs.valid q (KeyMap.mem_keys.mpr hq)

def keep (test : Name → Bool) : FileMap where
  map := fs.map.keep test
  valid q hq := by
    rw [KeyMap.mem_keys, KeyMap.get?_keep] at hq
    split at hq
    · exact fs.valid q (KeyMap.mem_keys.mpr hq)
    · cases hq

def remove (p : Name) : FileMap :=
  fs.keep (· ≠ p)

def isBelow (p q : Name) : Bool :=
  (p ++ [Path.separator]).isPrefixOf q

/-- The answer of an operation and the files after it. -/
abbrev Outcome := Except Failure FileTree.Reply × FileMap

/-- Does something with a valid path. -/
def onPath (p : Name) (f : Path.isValid p → Outcome) : Outcome :=
  if h : Path.isValid p then f h else (.error (.invalidPath p), fs)

def onFile (p : Name) (f : File → Outcome) : Outcome :=
  match fs.get? p with
  | some file => f file
  | none => (.error (.pathNotFound p), fs)

/-- A session on a path, if the chunk size lets it open. -/
def session (l : Limits) (p : Name) (size : Nat) : Except Failure FileTree.Reply :=
  if l.maxChunkSize.toPositive?.isSome then .ok (.session p (.ofNat size))
  else .error (.badChunkSize l.maxChunkSize)

def perform (l : Limits) : FileTree.Request → Outcome
  | .getContent p => fs.onPath p fun _ => fs.onFile p fun f => (.ok (.content f.data), fs)
  | .putContent p data => fs.onPath p fun hp =>
    if l.maxPutSize.lt (.ofNat data.length) then
      (.error (.sizeLimit p data.length l.maxPutSize), fs)
    else (.ok .done, fs.put p hp ⟨data, .block⟩)
  | .reader p offset => fs.onPath p fun _ =>
    match offset.toInt? with
    | some (.ofNat k) => fs.onFile p fun f => (.ok (.content (f.data.drop k)), fs)
    | _ => (.error (.invalidOffset p offset), fs)
  | .writer p true => fs.onPath p fun _ => fs.onFile p fun f =>
    (session l p f.data.length, fs)
  | .writer p false => fs.onPath p fun hp => (session l p 0, fs.put p hp ⟨[], .append⟩)
  | .move source dest => fs.onPath source fun _ => fs.onPath dest fun hdest =>
    fs.onFile source fun f => (.ok .done, (fs.put dest hdest f).remove source)
  | .delete p => fs.onPath p fun _ =>
    if fs.map.contains p then (.ok .done, fs.remove p)
    else if fs.map.keys.any (isBelow p) then (.ok .done, fs.keep fun q => !isBelow p q)
    else (.error (.pathNotFound p), fs)

def run (l : Limits) : List FileTree.Request → FileMap →
    List (Except Failure FileTree.Reply) × FileMap
  | [], fs => ([], fs)
  | q :: rest, fs =>
    let (r, fs) := fs.perform l q
    let (rs, fs) := run l rest fs
    (r :: rs, fs)

theorem onPath_valid {fs : FileMap} {p : Name} (hp : Path.isValid p)
    (f : Path.isValid p → Outcome) : fs.onPath p f = f hp :=
  dif_pos hp

theorem onPath_invalid {fs : FileMap} {p : Name} (hp : ¬Path.isValid p)
    (f : Path.isValid p → Outcome) : fs.onPath p f = (.error (.invalidPath p), fs) :=
  dif_neg hp

theorem onFile_some {fs : FileMap} {p : Name} {file : File} (h : fs.get? p = some file)
    (f : File → Outcome) : fs.onFile p f = f file := by
  rw [onFile, h]

theorem onFile_none {fs : FileMap} {p : Name} (h : fs.get? p = none) (f : File → Outcome) :
    fs.onFile p f = (.error (.pathNotFound p), fs) := by
  rw [onFile, h]

theorem get?_put {fs : FileMap} {p : Name} (hp : Path.isValid p) (f : File) (q : Name) :
    (fs.put p hp f).get? q = if q = p then some f else fs.get? q :=
  KeyMap.get?_insert ..

theorem get?_keep (fs : FileMap) (test : Name → Bool) (q : Name) :
    (fs.keep test).get? q = if test q then fs.get? q else none :=
  KeyMap.get?_keep ..

theorem isValid_of_get? {fs : FileMap} {p : Name} {f : File} (h : fs.get? p = some f) :
    Path.isValid p :=
  fs.valid p (KeyMap.mem_keys.mpr (Option.isSome_iff_exists.mpr ⟨f, h⟩))

theorem ext_get? {fs fs' : FileMap} (h : ∀ p, fs.get? p = fs'.get? p) : fs = fs' := by
  obtain ⟨map, valid⟩ := fs
  obtain ⟨map', valid'⟩ := fs'
  obtain rfl : map = map' := KeyMap.ext_get? h
  rfl

end FileMap
end BlobTree
