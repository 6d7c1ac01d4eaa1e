import BlobTree.Failure

/-!
# BlobTree.Writer.Append

Appending a block to an object in chunks of a bounded size, in order, up to the first chunk that
the store refuses.

* `pieces_flatten`: the pieces of a block put together are the block.
-/

namespace BlobTree
namespace Append

/-- The block in pieces of `n` bytes, the last one perhaps shorter; `steps` pieces at most. -/
def piecesWithin (n : Nat) : (steps : Nat) → Bytes → List Bytes
  | 0, _ => []
  | steps + 1, data =>
    if data.isEmpty then [] else data.take n :: piecesWithin n steps (data.drop n)

def pieces (n : Nat) (data : Bytes) : List Bytes :=
  piecesWithin n data.length data

theorem piecesWithin_flatten {n : Nat} (hn : 0 < n) {steps : Nat} {data : Bytes}
    (h : data.length ≤ steps) : (piecesWithin n steps data).flatten = data := by
  induction steps generalizing data with
  | zero =>
    have := List.eq_nil_of_length_eq_zero (Nat.le_zero.mp h)
    simp [piecesWithin, this]
  | succ steps ih =>
    by_cases he : data = []
    · simp [piecesWithin, he]
    · have hpos := List.length_pos_iff.mpr he
      have hlen : (data.drop n).length ≤ steps := by rw [List.length_drop]; omega
      simp [piecesWithin, he, ih hlen]

theorem pieces_flatten {n : Nat} (hn : 0 < n) (data : Bytes) : (pieces n data).flatten = data :=
  piecesWithin_flatten hn (Nat.le_refl _)

structure Report where
  /-- Bytes that reached the store. -/
  appended : Nat := 0
  failure : Option StoreError := none
  deriving DecidableEq, Inhabited

/-- The wording of an append that stopped part way. -/
def Report.message (r : Report) : String :=
  "append failed after " ++ toString r.appended ++ " bytes"

variable {σ : Type} (b : Backend σ) (key : Name)

def send : List Bytes → σ → Report × σ
  | [], s => ({}, s)
  | piece :: more, s =>
    match b.answer s (.appendChunk key piece) with
    | (.error e, s) => ({ failure := some e }, s)
    | (.ok _, s) =>
      let (r, s) := send more s
      ({ r with appended := piece.length + r.appended }, s)

/-- Appends a block in chunks of `chunk` bytes. -/
def block (chunk : Nat) (data : Bytes) (s : σ) : Report × σ :=
  send b key (pieces chunk data) s

/-- The chunk size that a number stands for, if it is whole and above zero. -/
def chunkSize (size : Number) : Except Failure { n : Nat // 0 < n } :=
  match size.toPositive? with
  | some n => if h : 0 < n then .ok ⟨n, h⟩ else .error (.badChunkSize size)
  | none => .error (.badChunkSize size)

end Append
end BlobTree
