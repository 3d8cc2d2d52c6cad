import Mathlib.Data.List.Induction
import Zkhood.Overlay
import Zkhood.StateProvider

/-!
# Storage reads and a flat state

The flat reference keeps one value per address and slot: a destruction zeroes
every slot of the address, and any other entry overwrites the slots it holds.
This file compares the overlay's storage reads with it, over runs of merges of
any length.

For one slot, both sides are driven by the history of its address, and the
history matters only through a `SlotStatus`. The two disagree in one status. When
a destroyed address is merged again, the overlay drops its tombstone, and a slot
which has not been written since the destruction shows the base value again,
while the flat reference still holds 0.
-/

namespace Zkhood

variable {ε : Type}

/-- A storage without layers: one answer per address and slot. -/
abbrev FlatStorage (ε : Type) := Address → U256 → Except ε U256

namespace FlatStorage

/-- A destruction zeroes the account's slots; another entry overwrites those it holds. -/
def mergeAccount (flat : FlatStorage ε) (address : Address) (account : Account) :
    FlatStorage ε := fun other slot =>
  if address = other then
    if account.isSelfdestructed then .ok 0
    else match account.present? slot with
      | some value => .ok value
      | none => flat other slot
  else flat other slot

/-- The merge of a state. -/
def applyEvmState (flat : FlatStorage ε) (state : EvmState) : FlatStorage ε :=
  state.entries.foldl (fun flat entry => flat.mergeAccount entry.1 entry.2) flat

/-- The merges of a run, one after another. -/
def applyEvmStates (flat : FlatStorage ε) (run : List EvmState) : FlatStorage ε :=
  run.foldl applyEvmState flat

end FlatStorage

/-- What a history has done to one slot of its address. -/
inductive SlotStatus where
  /-- Neither written nor wiped. -/
  | base
  /-- Last written with a value. -/
  | written (value : U256)
  /-- Wiped by the last entry, which destroyed the account. -/
  | wiped
  /-- Wiped, and merged again without a write to the slot. -/
  | exposed
deriving DecidableEq

namespace SlotStatus

/-- The status of a slot after one more entry for its address. -/
def next (slot : U256) (status : SlotStatus) (account : Account) : SlotStatus :=
  if account.isSelfdestructed then wiped
  else match account.present? slot with
    | some value => written value
    | none => if status = wiped then exposed else status

/-- The status of a slot after the entries for its address. -/
def after (slot : U256) (accounts : List Account) : SlotStatus :=
  accounts.foldl (next slot) base

/-- What the overlay reads for a slot in this status. -/
def overlayRead (answer : Except ε U256) : SlotStatus → Except ε U256
  | base | exposed => answer
  | written value => .ok value
  | wiped => .ok 0

/-- What the flat storage reads for a slot in this status. -/
def flatRead (answer : Except ε U256) : SlotStatus → Except ε U256
  | base => answer
  | written value => .ok value
  | wiped | exposed => .ok 0

/-- The status says what the overlay holds for the slot. -/
structure Describes (status : SlotStatus) (slot : U256) (view : AddressView) : Prop where
  slots : view.slots slot = match status with
    | written value => some value
    | base | wiped | exposed => none
  destroyed : view.destroyed = true ↔ status = wiped

theorem describes_base (slot : U256) : base.Describes slot AddressView.untouched :=
  ⟨rfl, by simp [AddressView.untouched]⟩

/-- The status follows the merge of an account. -/
theorem Describes.next {status : SlotStatus} {slot : U256} {view : AddressView}
    (described : status.Describes slot view) (account : Account) :
    (status.next slot account).Describes slot (account.mergeView view) := by
  by_cases dead : account.isSelfdestructed
  · constructor <;> simp [SlotStatus.next, Account.mergeView, dead]
  · cases held : account.present? slot with
    | some value => constructor <;> simp [SlotStatus.next, Account.mergeView, dead, held]
    | none =>
        have slots := described.slots
        constructor
        · cases status <;> simp_all [SlotStatus.next, Account.mergeView]
        · cases status <;> simp [SlotStatus.next, Account.mergeView, dead, held]

/-- The overlay's view of an address follows the status of each of its slots. -/
theorem describes_after (slot : U256) (accounts : List Account) :
    (after slot accounts).Describes slot (AddressView.untouched.mergeAll accounts) := by
  suffices general : ∀ status view, Describes status slot view →
      (accounts.foldl (next slot) status).Describes slot (view.mergeAll accounts) from
    general base AddressView.untouched (describes_base slot)
  induction accounts with
  | nil => exact fun _ _ described => described
  | cons account rest ih => exact fun _ _ described => ih _ _ (described.next account)

theorem Describes.slot_eq {status : SlotStatus} {slot : U256} {view : AddressView}
    (described : status.Describes slot view) (answer : Except ε U256) :
    view.slot slot answer = status.overlayRead answer := by
  have slots := described.slots
  have destroyed := described.destroyed
  cases status <;> simp_all [AddressView.slot, overlayRead]

theorem flatRead_next (status : SlotStatus) (slot : U256) (account : Account)
    (answer : Except ε U256) :
    (status.next slot account).flatRead answer =
      if account.isSelfdestructed then .ok 0
      else match account.present? slot with
        | some value => .ok value
        | none => status.flatRead answer := by
  by_cases dead : account.isSelfdestructed
  · simp [next, dead, flatRead]
  · cases held : account.present? slot with
    | some value => simp [next, dead, held, flatRead]
    | none => cases status <;> simp [next, dead, held, flatRead]

end SlotStatus

namespace FlatStorage

theorem applyEvmState_apply (flat : FlatStorage ε) (state : EvmState) (address : Address)
    (slot : U256) :
    flat.applyEvmState state address slot =
      (state.get? address).elim (flat address slot) fun account =>
        if account.isSelfdestructed then .ok 0
        else match account.present? slot with
          | some value => .ok value
          | none => flat address slot :=
  IterMap.foldl_view (fun (flat : FlatStorage ε) address => flat address slot)
    (fun flat entry => flat.mergeAccount entry.1 entry.2)
    (fun account held =>
      if account.isSelfdestructed then .ok 0
      else match account.present? slot with
        | some value => .ok value
        | none => held)
    (fun _ _ _ _ => rfl) state flat address

/-- The flat storage after a run, from the history of the address. -/
theorem applyEvmStates_apply (flat : FlatStorage ε) (run : List EvmState) (address : Address)
    (slot : U256) :
    flat.applyEvmStates run address slot =
      (SlotStatus.after slot (history run address)).flatRead (flat address slot) := by
  suffices general : ∀ (status : SlotStatus) (current : FlatStorage ε),
      current address slot = status.flatRead (flat address slot) →
      current.applyEvmStates run address slot =
        ((history run address).foldl (SlotStatus.next slot) status).flatRead
          (flat address slot) from
    general .base flat rfl
  induction run with
  | nil => exact fun _ _ agree => agree
  | cons state rest ih =>
      intro status current agree
      change (current.applyEvmState state).applyEvmStates rest address slot = _
      cases found : state.get? address with
      | none =>
          rw [ih status _ (by rw [applyEvmState_apply, found]; exact agree)]
          simp [history, found]
      | some account =>
          rw [ih (status.next slot account)]
          · simp [history, found]
          · rw [applyEvmState_apply, found, SlotStatus.flatRead_next, ← agree]
            rfl

end FlatStorage

/-- The history destroyed its account, and no later entry destroyed it again or wrote the
slot. -/
def Wiped (accounts : List Account) (slot : U256) : Prop :=
  ∃ before death after, accounts = before ++ death :: after ∧ death.isSelfdestructed ∧
    ∀ account ∈ after, ¬account.isSelfdestructed ∧ account.present? slot = none

/-- The history destroyed its account and then merged it again, and no entry after the last
destruction wrote the slot. -/
def Resurrected (accounts : List Account) (slot : U256) : Prop :=
  ∃ before death after, accounts = before ++ death :: after ∧ death.isSelfdestructed ∧
    after ≠ [] ∧ ∀ account ∈ after, ¬account.isSelfdestructed ∧ account.present? slot = none

/-- A slot is resurrected by an entry which does not write it, once it was wiped. -/
theorem resurrected_concat_iff (accounts : List Account) (account : Account) (slot : U256) :
    Resurrected (accounts ++ [account]) slot ↔
      ¬account.isSelfdestructed ∧ account.present? slot = none ∧ Wiped accounts slot := by
  constructor
  · rintro ⟨before, death, after, split, dead, nonempty, quiet⟩
    rcases List.eq_nil_or_concat after with rfl | ⟨front, last, rfl⟩
    · exact absurd rfl nonempty
    · rw [List.concat_eq_append, ← List.cons_append, ← List.append_assoc] at split
      rcases List.append_inj' split rfl with ⟨rfl, last_eq⟩
      cases last_eq
      have last_quiet := quiet account (by simp)
      exact ⟨last_quiet.1, last_quiet.2, before, death, front, rfl, dead,
        fun entry entry_mem => quiet entry (by simp [entry_mem])⟩
  · rintro ⟨alive, unwritten, before, death, after, rfl, dead, quiet⟩
    refine ⟨before, death, after ++ [account], by simp, dead, by simp, ?_⟩
    intro entry entry_mem
    rcases List.mem_append.mp entry_mem with earlier | last
    · exact quiet entry earlier
    · rw [List.mem_singleton.mp last]
      exact ⟨alive, unwritten⟩

theorem wiped_iff (accounts : List Account) (slot : U256) :
    Wiped accounts slot ↔
      (∃ before death, accounts = before ++ [death] ∧ death.isSelfdestructed) ∨
        Resurrected accounts slot := by
  constructor
  · rintro ⟨before, death, after, split, dead, quiet⟩
    by_cases last : after = []
    · subst last
      exact Or.inl ⟨before, death, split, dead⟩
    · exact Or.inr ⟨before, death, after, split, dead, last, quiet⟩
  · rintro (⟨before, death, split, dead⟩ | ⟨before, death, after, split, dead, -, quiet⟩)
    · exact ⟨before, death, [], split, dead, by simp⟩
    · exact ⟨before, death, after, split, dead, quiet⟩

/-- A slot stays wiped until an entry writes it. -/
theorem wiped_concat_iff (accounts : List Account) (account : Account) (slot : U256) :
    Wiped (accounts ++ [account]) slot ↔
      account.isSelfdestructed ∨ (account.present? slot = none ∧ Wiped accounts slot) := by
  rw [wiped_iff, resurrected_concat_iff]
  have ends_with : (∃ before death, accounts ++ [account] = before ++ [death] ∧
      death.isSelfdestructed = true) ↔ account.isSelfdestructed = true := by
    constructor
    · rintro ⟨before, death, split, dead⟩
      cases (List.append_inj' split rfl).2
      exact dead
    · exact fun dead => ⟨accounts, account, rfl, dead⟩
  rw [ends_with]
  tauto

namespace SlotStatus

theorem after_concat (slot : U256) (accounts : List Account) (account : Account) :
    after slot (accounts ++ [account]) = (after slot accounts).next slot account := by
  simp [after]

theorem next_eq_wiped_or_exposed_iff (status : SlotStatus) (slot : U256) (account : Account) :
    (status.next slot account = wiped ↔ account.isSelfdestructed) ∧
      (status.next slot account = exposed ↔
        ¬account.isSelfdestructed ∧ account.present? slot = none ∧
          (status = wiped ∨ status = exposed)) := by
  by_cases dead : account.isSelfdestructed
  · simp [next, dead]
  · cases held : account.present? slot with
    | some value => simp [next, dead, held]
    | none => cases status <;> simp [next, dead, held]

/-- The status of a slot in terms of its address's history. -/
theorem after_wiped_or_exposed_iff (slot : U256) (accounts : List Account) :
    (after slot accounts = exposed ↔ Resurrected accounts slot) ∧
      (after slot accounts = wiped ∨ after slot accounts = exposed ↔ Wiped accounts slot) := by
  induction accounts using List.reverseRecOn with
  | nil => simp [after, Resurrected, Wiped]
  | append_singleton accounts account ih =>
      have step := next_eq_wiped_or_exposed_iff (after slot accounts) slot account
      rw [after_concat, resurrected_concat_iff, wiped_concat_iff, step.1, step.2, ih.2]
      exact ⟨Iff.rfl, by tauto⟩

end SlotStatus

/-- After any run of merges into a fresh overlay, a storage read agrees with the flat reference
unless the run resurrected the slot over a base which does not answer 0. -/
theorem storageRef_eq_flat_iff (base : DatabaseRef ε) (run : List EvmState) (address : Address)
    (slot : U256) :
    ((OverlayState.new.applyEvmStates run).layerOver base).storageRef address slot =
        FlatStorage.applyEvmStates base.storageRef run address slot ↔
      (Resurrected (history run address) slot → base.storageRef address slot = .ok 0) := by
  rw [OverlayState.storageRef_layerOver, OverlayState.view_applyEvmStates,
    OverlayState.view_new, (SlotStatus.describes_after slot _).slot_eq,
    FlatStorage.applyEvmStates_apply, ← (SlotStatus.after_wiped_or_exposed_iff slot _).1]
  cases SlotStatus.after slot (history run address) <;>
    simp [SlotStatus.overlayRead, SlotStatus.flatRead]

/-- An entry which only sets the status flags of an address. -/
def flaggedAccount (selfDestructed : Bool) : Account where
  info := AccountInfo.default
  status := { created := false, selfDestructed, touched := true }
  storage := IterMap.empty

/-- An address is destroyed in one batch and touched in the next; its slot 1, which the base
holds at 7, reads 7 again. -/
theorem storageRef_ne_flat_of_touch_after_destruction :
    let base := (MockRobinhoodStateProvider.new.setStorage 0x11 1 7).databaseRef
    let run : List EvmState :=
      [IterMap.empty.insert 0x11 (flaggedAccount true),
        IterMap.empty.insert 0x11 (flaggedAccount false)]
    ((OverlayState.new.applyEvmStates run).layerOver base).storageRef 0x11 1 ≠
      FlatStorage.applyEvmStates base.storageRef run 0x11 1 := by
  intro base run
  rw [OverlayState.storageRef_layerOver, OverlayState.view_applyEvmStates,
    OverlayState.view_new, FlatStorage.applyEvmStates_apply]
  decide

end Zkhood
