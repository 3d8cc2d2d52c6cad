import Mathlib.Data.List.Basic
import Mathlib.Tactic.Common

/-!
# Windows which tile an interval from above

A list of windows of numbers which starts at the top of an interval, in which
each window ends right below the one before it. The windows cover the interval
and do not overlap.
-/

namespace Tiling

universe u

variable {α : Type u} (lower upper : α → ℕ) (width : ℕ)

/-- Non-empty windows of at most `width` numbers which descend from one number to another. -/
inductive Descends : ℕ → List α → ℕ → Prop where
  | last (window : α) (nonempty : lower window ≤ upper window)
      (short : upper window < lower window + width) :
      Descends (upper window) [window] (lower window)
  | cons (window : α) (nonempty : lower window ≤ upper window)
      (short : upper window < lower window + width) {next bottom : ℕ} {rest : List α}
      (adjacent : next + 1 = lower window) (later : Descends next rest bottom) :
      Descends (upper window) (window :: rest) bottom

namespace Descends

variable {lower upper width} {top bottom : ℕ} {windows : List α}

theorem bottom_le (descends : Descends lower upper width top windows bottom) : bottom ≤ top := by
  induction descends with
  | last window nonempty short => exact nonempty
  | cons window nonempty short adjacent later ih => omega

theorem head?_eq (descends : Descends lower upper width top windows bottom) :
    windows.head?.map upper = some top := by
  cases descends <;> rfl

/-- The windows cover the interval and nothing else. -/
theorem exists_mem_iff (descends : Descends lower upper width top windows bottom) (number : ℕ) :
    (∃ window ∈ windows, lower window ≤ number ∧ number ≤ upper window) ↔
      bottom ≤ number ∧ number ≤ top := by
  induction descends with
  | last window nonempty short => simp
  | cons window nonempty short adjacent later ih =>
      have below := later.bottom_le
      rw [List.exists_mem_cons_iff, ih]
      omega

/-- Every window is inside the range, not empty and not too long. -/
theorem bounds (descends : Descends lower upper width top windows bottom) {window : α}
    (window_mem : window ∈ windows) :
    bottom ≤ lower window ∧ lower window ≤ upper window ∧ upper window ≤ top ∧
      upper window < lower window + width := by
  induction descends with
  | last only nonempty short =>
      rw [List.mem_singleton.mp window_mem]
      exact ⟨Nat.le_refl _, nonempty, Nat.le_refl _, short⟩
  | cons first nonempty short adjacent later ih =>
      have below := later.bottom_le
      rcases List.mem_cons.mp window_mem with rfl | window_mem
      · omega
      · have held := ih window_mem
        omega

theorem isChain (descends : Descends lower upper width top windows bottom) :
    windows.IsChain fun higher later => upper later + 1 = lower higher := by
  induction descends with
  | last window nonempty short => exact .singleton window
  | cons window nonempty short adjacent later ih =>
      cases later with
      | last => exact .cons_cons adjacent ih
      | cons => exact .cons_cons adjacent ih

/-- The windows are disjoint, the earlier ones above the later ones. -/
theorem pairwise (descends : Descends lower upper width top windows bottom) :
    windows.Pairwise fun higher later => upper later < lower higher := by
  induction descends with
  | last window nonempty short => exact List.pairwise_singleton _ _
  | cons window nonempty short adjacent later ih =>
      refine List.pairwise_cons.mpr ⟨?_, ih⟩
      intro other other_mem
      have held := later.bounds other_mem
      omega

end Descends

end Tiling
