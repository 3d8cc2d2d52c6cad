import Mathlib.Data.Nat.Basic
import Mathlib.Tactic.Common

/-!
# Concatenated records of one width

A sequence of records of one width is stored as their concatenation, without
counts or separators. The width alone cuts the bytes apart again.
-/

namespace Records

variable {α β : Type} {record : α → List β} {width : ℕ}

/-- The record at an index of a concatenation. -/
def cut (width index : ℕ) (bytes : List β) : List β :=
  (bytes.drop (width * index)).take width

theorem length_flatMap (fixed : ∀ element, (record element).length = width)
    (elements : List α) : (elements.flatMap record).length = width * elements.length := by
  induction elements with
  | nil => rfl
  | cons element rest ih =>
      rw [List.flatMap_cons, List.length_append, fixed, ih, List.length_cons, Nat.mul_succ,
        Nat.add_comm]

/-- Records of one width are determined by their concatenation and their number. -/
theorem flatMap_inj_of_length_eq (fixed : ∀ element, (record element).length = width)
    (inj : Function.Injective record) {left right : List α} (counted : left.length = right.length)
    (same : left.flatMap record = right.flatMap record) : left = right := by
  induction left generalizing right with
  | nil => exact (List.length_eq_zero_iff.mp counted.symm).symm
  | cons element rest ih =>
      cases right with
      | nil => simp at counted
      | cons other others =>
          rw [List.flatMap_cons, List.flatMap_cons] at same
          rcases List.append_inj same (by rw [fixed, fixed]) with ⟨heads, tails⟩
          rw [inj heads, ih (by simpa using counted) tails]

/-- If no record is empty then the bytes determine the number of records, too. -/
theorem flatMap_injective (positive : 0 < width)
    (fixed : ∀ element, (record element).length = width) (inj : Function.Injective record) :
    Function.Injective fun elements : List α => elements.flatMap record := by
  intro left right same
  have lengths := congrArg List.length same
  simp only [length_flatMap fixed] at lengths
  exact flatMap_inj_of_length_eq fixed inj (Nat.eq_of_mul_eq_mul_left positive lengths) same

/-- A record is cut out of the concatenation at its index. -/
theorem cut_flatMap (fixed : ∀ element, (record element).length = width) {elements : List α}
    {index : ℕ} {element : α} (at_index : elements[index]? = some element) :
    cut width index (elements.flatMap record) = record element := by
  induction elements generalizing index with
  | nil => cases at_index
  | cons first rest ih =>
      have first_length := fixed first
      cases index with
      | zero =>
          cases at_index
          rw [cut, List.flatMap_cons, Nat.mul_zero, List.drop_zero]
          exact List.take_left' first_length
      | succ index =>
          rw [List.getElem?_cons_succ] at at_index
          rw [cut, List.flatMap_cons, Nat.mul_succ, Nat.add_comm, ← List.drop_drop,
            List.drop_left' first_length]
          exact ih at_index

theorem length_cut {index count : ℕ} {bytes : List β} (length_eq : bytes.length = width * count)
    (inside : index < count) : (cut width index bytes).length = width := by
  have room : width * (index + 1) ≤ width * count := Nat.mul_le_mul_left width inside
  rw [Nat.mul_succ] at room
  rw [cut, List.length_take, List.length_drop]
  omega

/-- The records which are cut from a byte string make it up. -/
theorem flatMap_cut {count : ℕ} {bytes : List β} (length_eq : bytes.length = width * count) :
    (List.range count).flatMap (cut width · bytes) = bytes := by
  induction count generalizing bytes with
  | zero => exact (List.length_eq_zero_iff.mp length_eq).symm
  | succ count ih =>
      have later : (bytes.drop width).length = width * count := by
        rw [List.length_drop, length_eq, Nat.mul_succ]
        omega
      have shifted : ∀ index, cut width (index + 1) bytes = cut width index (bytes.drop width) := by
        intro index
        rw [cut, cut, List.drop_drop, Nat.mul_succ, Nat.add_comm]
      have first : cut width 0 bytes = bytes.take width := by
        rw [cut, Nat.mul_zero, List.drop_zero]
      rw [List.range_succ_eq_map, List.flatMap_cons, List.flatMap_map, first]
      simp only [Nat.succ_eq_add_one, shifted]
      rw [ih later, List.take_append_drop]

end Records
