import BlobTree.Action
import BlobTree.Writer.Append

/-!
# BlobTree.Writer.Session

A writer session on one object. Bytes are buffered until a full chunk is there; full chunks are
appended at once and the rest waits for the next write, for the commit or for the close. When the
store refuses a chunk the buffer is dropped and the size falls back to what the store holds, so
that the caller can go on from there or cancel.

* Every operation gives its result, the session after it and the world after it, also when it
  fails (`Writer.Result`).
* `allowing_legal`, `allowing_refused`: an operation that is not legal in the session's state
  changes nothing.
-/

namespace BlobTree

structure Writer where
  path : Name
  key : Name
  chunk : Nat
  chunk_pos : 0 < chunk
  state : Writer.State := .open
  outcome : Writer.Outcome := .pending
  /-- Bytes in the store plus bytes in the buffer, counted from the size at the start. -/
  size : Number
  buffer : Bytes := []
  logger : Option Logger := none
  deriving DecidableEq

namespace Writer

def start (path key : Name) (size maxChunkSize : Number) (logger : Option Logger := none) :
    Except Failure Writer := do
  let chunk ← Append.chunkSize maxChunkSize
  return { path, key, size, logger, chunk := chunk.val, chunk_pos := chunk.property }

abbrev Result (σ α : Type) := Except Failure α × Writer × World σ

variable {σ α : Type} (b : Backend σ)

/-- Reports something about the session, if it has a logger. -/
def note (w : Writer) (fields : Fields) (message : String) (world : World σ) : World σ :=
  match w.logger with
  | none => world
  | some l =>
    let path : Fields := [("path", .text (String.ofList w.path))]
    { world with journal := l.write .debug (path ++ fields) message world.journal }

/-- Does something if the operation is legal in the session's state. -/
def allowing (op : Operation) (w : Writer) (world : World σ)
    (act : Writer → World σ → Result σ α) : Result σ α :=
  if w.state ∈ op.allowed then act w world else (.error (.invalidState op w.state), w, world)

def append (w : Writer) (data : Bytes) (world : World σ) : Result σ Unit :=
  let (report, store) := Append.block b w.key w.chunk data world.store
  let world := { world with store }
  match report.failure with
  | none => (.ok (), w, world)
  | some e =>
    let lost := data.length - report.appended + w.buffer.length
    let w := { w with size := w.size.shift (-lost), buffer := [] }
    let fields : Fields := [("appended", .number (.ofNat report.appended)), ("size", .number w.size)]
    (.error (.store e), w, w.note fields "chunk append failed" world)

def flush (w : Writer) (world : World σ) : Result σ Unit :=
  if w.buffer.isEmpty then (.ok (), w, world)
  else append b { w with buffer := [] } w.buffer world

/-- Takes bytes in and appends the full chunks; the result is how many bytes were accepted. -/
def write (w : Writer) (data : Bytes) (world : World σ) : Result σ Nat :=
  allowing .write w world fun w world =>
    let held := w.buffer ++ data
    let full := held.length - held.length % w.chunk
    let w := { w with buffer := held.drop full, size := w.size.shift data.length }
    if full = 0 then (.ok data.length, w, world)
    else
      let (r, w, world) := append b w (held.take full) world
      (r.map fun _ => data.length, w, world)

def commit (w : Writer) (world : World σ) : Result σ Unit :=
  allowing .commit w world fun w world =>
    match flush b w world with
    | (.ok _, w, world) =>
      let w := { w with state := .committed, outcome := .committed }
      (.ok (), w, w.note [("size", .number w.size)] "writer committed" world)
    | r => r

/-- Drops what is in the buffer and deletes the object. The session is over even if the object
cannot be deleted. -/
def cancel (w : Writer) (world : World σ) : Result σ Unit :=
  allowing .cancel w world fun w world =>
    let w := { w with state := .cancelled, outcome := .cancelled, buffer := [] }
    let world := w.note [] "writer cancelled" world
    let (r, store) := b.answer world.store (.delete w.key)
    (r.mapError fun e => Failure.atPath w.path (.store e), w, { world with store })

/-- Ends the session; an open one is flushed first. -/
def close (w : Writer) (world : World σ) : Result σ Unit :=
  allowing .close w world fun w world =>
    if w.state = .open then
      match flush b w world with
      | (.ok _, w, world) => (.ok (), { w with state := .closed, outcome := .uncommitted }, world)
      | r => r
    else (.ok (), { w with state := .closed }, world)

@[simp] theorem note_store (w : Writer) (fields : Fields) (message : String) (world : World σ) :
    (w.note fields message world).store = world.store := by
  unfold note
  split <;> rfl

theorem allowing_legal {op : Operation} {w : Writer} (h : w.state ∈ op.allowed)
    (world : World σ) (act : Writer → World σ → Result σ α) :
    allowing op w world act = act w world :=
  if_pos h

theorem allowing_refused {op : Operation} {w : Writer} (h : w.state ∉ op.allowed)
    (world : World σ) (act : Writer → World σ → Result σ α) :
    allowing op w world act = (.error (.invalidState op w.state), w, world) :=
  if_neg h

end Writer
end BlobTree
