import Mathlib.Data.Set.Function
import Zkhood.Data.Records

/-!
# Hashes of lists of hashes

A list is committed to by hashing each element, concatenating the digests, and
hashing the result. As all digests have one width, a commitment determines the
list as long as the hash has no collision among the inputs at hand.
-/

namespace HashedList

variable {α β γ : Type}

theorem map_inj_of_injOn {f : α → β} {left right : List α}
    (inj : Set.InjOn f {element | element ∈ left ++ right}) (same : left.map f = right.map f) :
    left = right := by
  induction left generalizing right with
  | nil => exact (List.map_eq_nil_iff.mp same.symm).symm
  | cons element rest ih =>
      cases right with
      | nil => cases same
      | cons other others =>
          rw [List.map_cons, List.map_cons, List.cons.injEq] at same
          have heads : element = other := inj (by simp) (by simp) same.1
          have tails : rest = others := by
            apply ih _ same.2
            apply inj.mono
            intro later later_mem
            rcases List.mem_append.mp later_mem with in_rest | in_others
            · exact List.mem_append_left _ (List.mem_cons_of_mem _ in_rest)
            · exact List.mem_append_right _ (List.mem_cons_of_mem _ in_others)
          rw [heads, tails]

variable (hash : List β → γ) (digest : γ → List β) (encode : α → List β)

/-- The concatenated digests of the elements. -/
def digests (elements : List α) : List β :=
  elements.flatMap fun element => digest (hash (encode element))

/-- The hash of the concatenated digests of a list. -/
def commit (elements : List α) : γ := hash (digests hash digest encode elements)

/-- The inputs which are hashed for a commitment. -/
def inputs (elements : List α) : List (List β) :=
  digests hash digest encode elements :: elements.map encode

variable {hash digest encode} {width : ℕ}

/-- Without a collision among what is hashed, a commitment determines the list and its order. -/
theorem commit_eq_iff (positive : 0 < width) (fixed : ∀ value, (digest value).length = width)
    (digest_inj : Function.Injective digest) (encode_inj : Function.Injective encode)
    {left right : List α}
    (collisionFree : Set.InjOn hash
      {bytes | bytes ∈ inputs hash digest encode left ++ inputs hash digest encode right}) :
    commit hash digest encode left = commit hash digest encode right ↔ left = right := by
  constructor
  · intro same
    have concatenated : digests hash digest encode left = digests hash digest encode right :=
      collisionFree (by simp [inputs]) (by simp [inputs]) same
    have hashes : left.map (fun element => hash (encode element)) =
        right.map fun element => hash (encode element) := by
      apply Records.flatMap_injective positive fixed digest_inj
      simpa only [digests, List.flatMap_map] using concatenated
    refine map_inj_of_injOn ?_ hashes
    intro element element_mem other other_mem collision
    have hashed : ∀ element ∈ left ++ right,
        encode element ∈ inputs hash digest encode left ++ inputs hash digest encode right := by
      intro element element_mem
      rcases List.mem_append.mp element_mem with in_left | in_right
      · exact List.mem_append_left _ (List.mem_cons_of_mem _ (List.mem_map_of_mem in_left))
      · exact List.mem_append_right _ (List.mem_cons_of_mem _ (List.mem_map_of_mem in_right))
    exact encode_inj
      (collisionFree (hashed element element_mem) (hashed other other_mem) collision)
  · intro same
    rw [same]

end HashedList
