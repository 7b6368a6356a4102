import Mathlib.Data.List.GetD

/-!
# Flat memories

A flat memory is a total map from addresses to cells: bytes of a linear memory,
samples of an audio buffer. This file gives block reads and writes and the
rules by which they compose: a read after a write of the same block returns
what was written, cells outside of it are unaffected, and a read only depends on
the cells it covers.

## Key results

- `read_write_self`: reading back a block that was just written
- `write_of_outside`: a write does not reach the addresses outside its block
- `read_congr`: a read is determined by the cells it covers
- `write_comm`: writes of blocks that are apart commute
-/

/-- A flat memory with cells of type `α`. -/
abbrev Cells (α : Type) := Nat → α

/-- The addresses of a block of `n` cells from `a` on. -/
def span (a n : Nat) : Nat → Prop := fun x => a ≤ x ∧ x < a + n

instance (a n x : Nat) : Decidable (span a n x) := inferInstanceAs (Decidable (_ ∧ _))

/-- Element `i` of an array of `n` elements ends in the array. -/
theorem element_le {w i n : Nat} (hi : i < n) : w * i + w ≤ w * n := by
  rw [← Nat.mul_succ]
  exact Nat.mul_le_mul_left _ hi

/-- The addresses of an element are addresses of the array. -/
theorem span_element {a w n i : Nat} (hi : i < n) {x : Nat} (hx : span (a + w * i) w x) :
    span a (w * n) x := by
  have hfit : w * i + w ≤ w * n := element_le hi
  simp only [span] at hx ⊢
  omega

namespace Cells

variable {α : Type}

/-- The `n` cells from address `a` on. -/
def read (m : Cells α) (a n : Nat) : List α := (List.range n).map fun i => m (a + i)

/-- Overwrite the block that starts at `a` with `xs`. -/
def write (m : Cells α) (a : Nat) (xs : List α) : Cells α :=
  fun x => if a ≤ x then xs.getD (x - a) (m x) else m x

@[simp] theorem length_read (m : Cells α) (a n : Nat) : (m.read a n).length = n := by
  simp [read]

theorem getElem_read (m : Cells α) (a n i : Nat) (h : i < (m.read a n).length) :
    (m.read a n)[i] = m (a + i) := by
  simp [read]

/-- A read is determined by the cells it covers. -/
theorem read_congr {m m' : Cells α} {a n : Nat} (h : ∀ x, span a n x → m x = m' x) :
    m.read a n = m'.read a n := by
  apply List.map_congr_left
  intro i hi
  rw [List.mem_range] at hi
  exact h (a + i) ⟨by omega, by omega⟩

/-- Splitting a read in two. -/
theorem read_add (m : Cells α) (a n k : Nat) :
    m.read a (n + k) = m.read a n ++ m.read (a + n) k := by
  simp only [read, List.range_add, List.map_append, List.map_map, List.append_cancel_left_eq]
  apply List.map_congr_left
  intro i _
  simp only [Function.comp_apply, Nat.add_assoc]

/-- A part of a read is a shorter read. -/
theorem take_drop_read (m : Cells α) (a n d k : Nat) (h : d + k ≤ n) :
    ((m.read a n).drop d).take k = m.read (a + d) k := by
  obtain ⟨r, rfl⟩ := Nat.exists_eq_add_of_le h
  rw [Nat.add_assoc, read_add, List.drop_left' (length_read m a d), read_add,
    List.take_left' (length_read m _ k)]

/-- The front of a read is a shorter read. -/
theorem take_read (m : Cells α) (a n k : Nat) (h : k ≤ n) :
    (m.read a n).take k = m.read a k := by
  simpa using take_drop_read m a n 0 k (by omega)

/-- A loop that copies cells to a list, one in each iteration. -/
theorem take_set_read {m : Cells α} {a i : Nat} {xs : List α} (hi : i < xs.length)
    (h : xs.take i = m.read a i) : (xs.set i (m (a + i))).take (i + 1) = m.read a (i + 1) := by
  have hset : i < (xs.set i (m (a + i))).length := by rwa [List.length_set]
  rw [List.take_add_one, List.take_set_of_le (Nat.le_refl i), h, List.getElem?_eq_getElem hset,
    List.getElem_set_self, read_add]
  rfl

/-- A write does not reach the addresses outside its block. -/
theorem write_of_outside (m : Cells α) (a : Nat) (xs : List α) {x : Nat}
    (h : ¬ span a xs.length x) : m.write a xs x = m x := by
  unfold write
  split
  next hle => exact List.getD_eq_default _ _ (by simp only [span] at h; omega)
  next => rfl

/-- Inside its block a write stores the cells it was given. -/
theorem write_of_inside (m : Cells α) (a : Nat) (xs : List α) {i : Nat}
    (h : i < xs.length) : m.write a xs (a + i) = xs[i] := by
  rw [write, if_pos (Nat.le_add_right a i), Nat.add_sub_cancel_left, List.getD_eq_getElem _ _ h]

/-- Reading back a block that was just written. -/
theorem read_write_self (m : Cells α) (a : Nat) (xs : List α) :
    (m.write a xs).read a xs.length = xs := by
  apply List.ext_getElem (length_read _ _ _)
  intro i h₁ h₂
  rw [getElem_read, write_of_inside _ _ _ h₂]

@[simp] theorem write_nil (m : Cells α) (a : Nat) : m.write a [] = m := by
  funext x
  exact m.write_of_outside a [] fun hx => Nat.not_lt.mpr hx.1 hx.2

/-- Writes of blocks that are apart commute. -/
theorem write_comm (m : Cells α) {a b : Nat} {xs ys : List α}
    (h : ∀ x, span a xs.length x → ¬ span b ys.length x) :
    (m.write a xs).write b ys = (m.write b ys).write a xs := by
  funext x
  by_cases hx : span a xs.length x
  · obtain ⟨i, rfl⟩ := Nat.exists_eq_add_of_le hx.1
    have hi : i < xs.length := Nat.lt_of_add_lt_add_left hx.2
    rw [write_of_outside _ _ _ (h _ hx), write_of_inside _ _ _ hi, write_of_inside _ _ _ hi]
  · rw [write_of_outside _ a xs hx]
    by_cases hy : span b ys.length x
    · obtain ⟨i, rfl⟩ := Nat.exists_eq_add_of_le hy.1
      have hi : i < ys.length := Nat.lt_of_add_lt_add_left hy.2
      rw [write_of_inside _ _ _ hi, write_of_inside _ _ _ hi]
    · rw [write_of_outside _ _ _ hy, write_of_outside _ _ _ hy, write_of_outside _ _ _ hx]

end Cells
