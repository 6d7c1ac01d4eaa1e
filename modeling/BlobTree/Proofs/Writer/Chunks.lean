import BlobTree.Writer.Append

/-!
# BlobTree.Proofs.Writer.Chunks

The chunks of a row of bytes, counted from its start: the first ones are the same however the row
goes on, and those after the first `m` are the chunks of what is left.

* `chunks_append`, `chunks_add`: chunks of a longer row, and from a later start.
* `pieces_eq_chunks`: an appended block is cut into all of its chunks.
-/

namespace BlobTree
namespace Append

variable {c n : Nat} {data : Bytes}

/-- The chunk after `i` others, the last one perhaps shorter. -/
def chunkAt (c : Nat) (data : Bytes) (i : Nat) : Bytes :=
  (data.drop (i * c)).take c

def chunks (c n : Nat) (data : Bytes) : List Bytes :=
  (List.range n).map (chunkAt c data)

theorem chunkAt_add (c : Nat) (data : Bytes) (m i : Nat) :
    chunkAt c data (m + i) = chunkAt c (data.drop (m * c)) i := by
  rw [chunkAt, chunkAt, List.drop_drop, Nat.add_mul]

theorem chunks_add (c m n : Nat) (data : Bytes) :
    chunks c (m + n) data = chunks c m data ++ chunks c n (data.drop (m * c)) := by
  have hlater : chunkAt c data ∘ (m + ·) = chunkAt c (data.drop (m * c)) :=
    funext fun i => chunkAt_add c data m i
  rw [chunks, List.range_add, List.map_append, List.map_map, hlater]
  rfl

theorem chunks_succ (c n : Nat) (data : Bytes) :
    chunks c (n + 1) data = data.take c :: chunks c n (data.drop c) := by
  have hfirst : chunks c 1 data = [data.take c] := by simp [chunks, chunkAt]
  rw [Nat.add_comm, chunks_add, hfirst, Nat.one_mul]
  rfl

/-- Full chunks do not depend on what comes after them. -/
theorem chunks_append (h : n * c ≤ data.length) (more : Bytes) :
    chunks c n (data ++ more) = chunks c n data := by
  refine List.map_congr_left fun i hi => ?_
  have hlt : i < n := List.mem_range.mp hi
  have hend : i * c + c ≤ data.length := by
    have hle : (i + 1) * c ≤ n * c := Nat.mul_le_mul_right c hlt
    rw [Nat.add_mul, Nat.one_mul] at hle
    omega
  rw [chunkAt, chunkAt, List.drop_append_of_le_length (by omega),
    List.take_append_of_le_length (by rw [List.length_drop]; omega)]

theorem chunks_take (h : n * c ≤ data.length) :
    chunks c n (data.take (n * c)) = chunks c n data := by
  have hfull : n * c ≤ (data.take (n * c)).length := by
    rw [List.length_take]
    omega
  have happend := chunks_append hfull (data.drop (n * c))
  rw [List.take_append_drop] at happend
  exact happend.symm

theorem length_of_mem_chunks (hc : 0 < c) {piece : Bytes}
    (h : piece ∈ chunks c ((data.length + c - 1) / c) data) :
    1 ≤ piece.length ∧ piece.length ≤ c := by
  obtain ⟨i, hi, rfl⟩ := List.mem_map.mp h
  have hlt : i + 1 ≤ (data.length + c - 1) / c := List.mem_range.mp hi
  rw [Nat.le_div_iff_mul_le hc, Nat.add_mul, Nat.one_mul] at hlt
  rw [chunkAt, List.length_take, List.length_drop]
  omega

/-- A row of bytes that is not empty has one chunk more than what is left after the first. -/
theorem count_of_pos (hc : 0 < c) (h : 0 < n) :
    (n + c - 1) / c = (n - c + c - 1) / c + 1 := by
  by_cases hle : c ≤ n
  · rw [Nat.sub_add_cancel hle, ← Nat.add_div_right _ hc]
    congr 1
    omega
  · have hnone : n - c = 0 := by omega
    rw [hnone, Nat.zero_add, Nat.div_eq_of_lt (by omega : c - 1 < c)]
    exact Nat.div_eq_of_lt_le (by omega) (by omega)

theorem piecesWithin_eq_chunks (hc : 0 < c) {steps : Nat} (h : data.length ≤ steps) :
    piecesWithin c steps data = chunks c ((data.length + c - 1) / c) data := by
  induction steps generalizing data with
  | zero =>
    obtain rfl : data = [] := List.eq_nil_of_length_eq_zero (Nat.le_zero.mp h)
    rw [List.length_nil, Nat.zero_add, Nat.div_eq_of_lt (by omega : c - 1 < c)]
    rfl
  | succ steps ih =>
    cases data with
    | nil =>
      rw [List.length_nil, Nat.zero_add, Nat.div_eq_of_lt (by omega : c - 1 < c)]
      rfl
    | cons x rest =>
      have hrest : ((x :: rest).drop c).length ≤ steps := by
        rw [List.length_drop, List.length_cons] at *
        omega
      rw [count_of_pos hc (by simp), chunks_succ, piecesWithin, if_neg (by simp), ih hrest,
        List.length_drop]

theorem pieces_eq_chunks (hc : 0 < c) (data : Bytes) :
    pieces c data = chunks c ((data.length + c - 1) / c) data :=
  piecesWithin_eq_chunks hc (Nat.le_refl _)

theorem pieces_full (hc : 0 < c) (data : Bytes) :
    pieces c (data.take (data.length - data.length % c)) = chunks c (data.length / c) data := by
  have hle : data.length / c * c ≤ data.length := Nat.div_mul_le_self _ _
  have hcount : (data.length / c * c + c - 1) / c = data.length / c := by
    have hlast : (c - 1) / c = 0 := Nat.div_eq_of_lt (Nat.sub_lt hc Nat.one_pos)
    rw [Nat.add_sub_assoc hc, Nat.mul_comm, Nat.mul_add_div hc, hlast, Nat.add_zero]
  rw [← Nat.div_mul_self_eq_mod_sub_self, pieces_eq_chunks hc, List.length_take,
    Nat.min_eq_left hle, hcount, chunks_take hle]

theorem chunks_full_add (hc : 0 < c) (data : Bytes) :
    chunks c (data.length / c) data ++ pieces c (data.drop (data.length / c * c)) =
      chunks c ((data.length + c - 1) / c) data := by
  have hcount : (data.length + c - 1) / c =
      data.length / c + ((data.drop (data.length / c * c)).length + c - 1) / c := by
    have hle : data.length / c * c ≤ data.length := Nat.div_mul_le_self _ _
    rw [List.length_drop, ← Nat.mul_add_div hc, Nat.mul_comm c]
    congr 1
    omega
  rw [hcount, chunks_add, pieces_eq_chunks hc]

end Append
end BlobTree
