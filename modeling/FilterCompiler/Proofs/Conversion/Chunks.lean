import FilterCompiler.Conversion.Chunks
import Mathlib.Algebra.Group.Nat.Defs

/-!
# Chunks make up the lines

A chunk is what stands at its place in the list (`chunk_eq`), so the chunks in a
row are the list again (`flatMap_chunk`).  A chunk starts before the end of the
list; hence its bounds fit into a machine word when the number of lines and the
size of chunks do (`start_add_size_lt`).
-/

namespace FilterCompiler
namespace ChunkedLines

variable (c : ChunkedLines)

/-- The chunks hold all lines. -/
theorem size_le_count_mul :
    c.lines.size ≤ c.count * c.size := by
  have hdiv := Nat.div_add_mod' c.lines.size c.size
  have hmod := Nat.mod_lt c.lines.size c.size_pos
  unfold count
  split
  · rw [Nat.add_zero]
    omega
  · rw [Nat.add_mul]
    omega

/-- A chunk starts before the end of the list. -/
theorem start_lt
    {index : Nat}
    (h : index < c.count) :
    c.start index < c.lines.size := by
  have hdiv := Nat.div_add_mod' c.lines.size c.size
  have hle : c.start index ≤ (c.count - 1) * c.size := Nat.mul_le_mul_right _ (by omega)
  unfold count at h hle
  split at h
  · next hmod =>
      rw [if_pos hmod, Nat.add_zero, Nat.sub_mul, Nat.one_mul] at hle
      have hpos : c.size ≤ c.lines.size / c.size * c.size := by
        apply Nat.le_mul_of_pos_left
        omega
      have hsize := c.size_pos
      omega
  · next hmod =>
      rw [if_neg hmod, Nat.add_sub_cancel] at hle
      omega

/-- A chunk is what stands at its place in the list. -/
theorem chunk_eq
    (index : Nat) :
    c.chunk index = (c.lines.toList.drop (c.start index)).take c.size := by
  rw [chunk, Array.toList_extract, List.extract_eq_take_drop, List.take_eq_take_iff,
    List.length_drop, Array.length_toList, stop]
  omega

/-- **The chunks in a row are the list.** -/
theorem flatMap_chunk :
    (List.range c.count).flatMap c.chunk = c.lines.toList := by
  have htake (k : Nat) :
      (List.range k).flatMap c.chunk = c.lines.toList.take (k * c.size) := by
    induction k with
    | zero => simp
    | succ k ih =>
        rw [List.range_succ, List.flatMap_append, ih, List.flatMap_singleton, chunk_eq,
          Nat.add_mul, Nat.one_mul, List.take_add]
        rfl
  rw [htake, List.take_of_length_le]
  exact c.size_le_count_mul

/-- **The bounds of a chunk fit into a machine word**: the first chunk starts at
zero, and a later one starts no earlier than a whole chunk. -/
theorem start_add_size_lt
    {index : Nat}
    (hlines : c.lines.size < 2 ^ 63)
    (hsize : c.size < 2 ^ 64)
    (h : index < c.count) :
    c.start index + c.size < 2 ^ 64 := by
  have hstart := c.start_lt h
  cases index with
  | zero =>
      rw [start, Nat.zero_mul]
      omega
  | succ index =>
      have hle : c.size ≤ c.start (index + 1) := Nat.le_mul_of_pos_left _ (Nat.succ_pos _)
      omega

end ChunkedLines
end FilterCompiler
