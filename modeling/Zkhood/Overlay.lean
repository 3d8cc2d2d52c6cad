import Zkhood.State

/-!
# The rollup overlay

`OverlayState` accumulates what the rollup has written: accounts, storage slots,
code, and the accounts it destroyed. A batch reads it layered over a base
provider, and `applyEvmState` merges the batch's changes back in.

A merge treats every address on its own. `AddressView` is what the overlay holds
about one address, `Account.mergeView` is the effect of one entry on it, and
`OverlayState.view_applyEvmState` says that a merge, whatever its order of
iteration, applies each entry to the view of its own address and leaves the
other views alone. Reads of accounts and storage are functions of the view.
-/

namespace Zkhood

/-- Durable rollup-private state. -/
@[ext]
structure OverlayState where
  accounts : HashMap Address AccountInfo
  storage : HashMap (Address × U256) U256
  code : HashMap B256 Bytecode
  /-- Accounts destroyed in the overlay; reads must return "empty". -/
  destroyed : HashSet Address
  /-- The previous batch's `new_state_commitment`. -/
  lastCommitment : Hash

namespace OverlayState

/-- The overlay of a fresh rollup. -/
def new : OverlayState := ⟨∅, ∅, ∅, ∅, 0⟩

/-- The commitment of the last batch. -/
def commitment (self : OverlayState) : Hash := self.lastCommitment

/-- Records the commitment of a batch. -/
def setCommitment (self : OverlayState) (commitment : Hash) : OverlayState :=
  { self with lastCommitment := commitment }

/-- Nothing has been merged; the code map does not count. -/
def isEmpty (self : OverlayState) : Bool :=
  self.accounts.isEmpty && self.storage.isEmpty && self.destroyed.isEmpty

/-- The balance of an account in the overlay, 0 if it has none. -/
def balanceOf (self : OverlayState) (address : Address) : U256 :=
  (self.accounts[address]?.map AccountInfo.balance).getD 0

/-- The code map with the code of an account, unless it has none. -/
def insertCode (self : OverlayState) (info : AccountInfo) : HashMap B256 Bytecode :=
  match info.code with
  | some code => if !code.isEmpty then self.code.insert info.codeHash code else self.code
  | none => self.code

/-- The body of the merge loop. -/
def mergeAccount (self : OverlayState) (address : Address) (account : Account) : OverlayState :=
  if account.isSelfdestructed then
    { self with
      accounts := self.accounts.erase address
      storage := self.storage.filter fun key _ => key.1 != address
      destroyed := self.destroyed.insert address }
  else
    { self with
      destroyed := self.destroyed.erase address
      code := self.insertCode account.info
      accounts := self.accounts.insert address account.info
      storage := account.storage.entries.foldl
        (fun storage entry => storage.insert (address, entry.1) entry.2.presentValue)
        self.storage }

/-- Merges the state changes REVM reported for a batch into the overlay. -/
def applyEvmState (self : OverlayState) (state : EvmState) : OverlayState :=
  state.entries.foldl (fun overlay entry => overlay.mergeAccount entry.1 entry.2) self

/-- Layers this overlay over `base`: a batch reads overlay-first, base-fallback. -/
def layerOver {ε : Type} (self : OverlayState) (base : DatabaseRef ε) : DatabaseRef ε where
  basicRef address :=
    if self.destroyed.contains address then .ok none
    else match self.accounts[address]? with
      | some info => .ok (some info)
      | none => base.basicRef address
  codeByHashRef codeHash :=
    match self.code[codeHash]? with
    | some code => .ok code
    | none => base.codeByHashRef codeHash
  storageRef address index :=
    match self.storage[(address, index)]? with
    | some value => .ok value
    | none => if self.destroyed.contains address then .ok 0 else base.storageRef address index
  blockHashRef number := base.blockHashRef number

end OverlayState

/-- What an overlay holds about one address. -/
@[ext]
structure AddressView where
  info : Option AccountInfo
  slots : U256 → Option U256
  destroyed : Bool

/-- What merging an account makes of the view of its address. -/
def Account.mergeView (account : Account) (view : AddressView) : AddressView :=
  if account.isSelfdestructed then { info := none, slots := fun _ => none, destroyed := true }
  else
    { info := some account.info
      slots := fun slot => (account.present? slot).or (view.slots slot)
      destroyed := false }

/-- The entries a run of merges has for an address, oldest first. -/
def history (run : List EvmState) (address : Address) : List Account :=
  run.filterMap fun state => state.get? address

namespace AddressView

/-- The view of an address without an entry. -/
def untouched : AddressView := ⟨none, fun _ => none, false⟩

/-- A view after a run of entries, oldest first. -/
def mergeAll (view : AddressView) (accounts : List Account) : AddressView :=
  accounts.foldl (fun view account => account.mergeView view) view

@[simp]
theorem mergeAll_nil (view : AddressView) : view.mergeAll [] = view := rfl

@[simp]
theorem mergeAll_cons (view : AddressView) (account : Account) (rest : List Account) :
    view.mergeAll (account :: rest) = (account.mergeView view).mergeAll rest := rfl

theorem mergeAll_concat (view : AddressView) (accounts : List Account) (last : Account) :
    view.mergeAll (accounts ++ [last]) = last.mergeView (view.mergeAll accounts) := by
  rw [mergeAll, List.foldl_append]
  rfl

/-- The account a view shows above a base answer. -/
def basic {ε : Type} (view : AddressView) (base : Except ε (Option AccountInfo)) :
    Except ε (Option AccountInfo) :=
  if view.destroyed then .ok none
  else match view.info with
    | some info => .ok (some info)
    | none => base

/-- The slot a view shows above a base answer. -/
def slot {ε : Type} (view : AddressView) (index : U256) (base : Except ε U256) : Except ε U256 :=
  match view.slots index with
  | some value => .ok value
  | none => if view.destroyed then .ok 0 else base

variable {ε : Type}

/-- The base's account matters only where the overlay has no answer. -/
theorem basic_eq_iff (view : AddressView) (left right : Except ε (Option AccountInfo)) :
    view.basic left = view.basic right ↔ left = right ∨ view.destroyed ∨ view.info.isSome := by
  rw [basic, basic]
  cases view.destroyed <;> cases view.info <;> simp

/-- The base's slot matters only where the overlay has no answer. -/
theorem slot_eq_iff (view : AddressView) (index : U256) (left right : Except ε U256) :
    view.slot index left = view.slot index right ↔
      left = right ∨ view.destroyed ∨ (view.slots index).isSome := by
  rw [slot, slot]
  cases view.slots index <;> cases view.destroyed <;> simp

end AddressView

namespace OverlayState

variable {ε : Type}

/-- What the overlay's maps hold about an address. -/
def view (self : OverlayState) (address : Address) : AddressView where
  info := self.accounts[address]?
  slots := fun slot => self.storage[(address, slot)]?
  destroyed := self.destroyed.contains address

@[simp]
theorem view_new (address : Address) : new.view address = AddressView.untouched := by
  simp [view, new, AddressView.untouched]

@[simp]
theorem view_setCommitment (self : OverlayState) (commitment : Hash) (address : Address) :
    (self.setCommitment commitment).view address = self.view address := rfl

@[simp]
theorem commitment_setCommitment (self : OverlayState) (commitment : Hash) :
    (self.setCommitment commitment).commitment = commitment := rfl

theorem basicRef_layerOver (self : OverlayState) (base : DatabaseRef ε) (address : Address) :
    (self.layerOver base).basicRef address =
      (self.view address).basic (base.basicRef address) := rfl

theorem storageRef_layerOver (self : OverlayState) (base : DatabaseRef ε) (address : Address)
    (index : U256) :
    (self.layerOver base).storageRef address index =
      (self.view address).slot index (base.storageRef address index) := rfl

/-- An overlay shows the same above two bases exactly where it shadows what differs. -/
theorem layerOver_eq_iff (self : OverlayState) (left right : DatabaseRef ε) :
    self.layerOver left = self.layerOver right ↔
      (∀ address, left.basicRef address = right.basicRef address ∨
        (self.view address).destroyed ∨ (self.view address).info.isSome) ∧
      (∀ codeHash, left.codeByHashRef codeHash = right.codeByHashRef codeHash ∨
        self.code[codeHash]?.isSome) ∧
      (∀ address index, left.storageRef address index = right.storageRef address index ∨
        (self.view address).destroyed ∨ ((self.view address).slots index).isSome) ∧
      left.blockHashRef = right.blockHashRef := by
  have code : ∀ codeHash,
      (self.layerOver left).codeByHashRef codeHash =
        (self.layerOver right).codeByHashRef codeHash ↔
      left.codeByHashRef codeHash = right.codeByHashRef codeHash ∨
        self.code[codeHash]?.isSome := by
    intro codeHash
    simp only [layerOver]
    cases self.code[codeHash]? <;> simp
  simp only [DatabaseRef.ext_iff, funext_iff, basicRef_layerOver, storageRef_layerOver,
    AddressView.basic_eq_iff, AddressView.slot_eq_iff, code]
  rfl

theorem getElem?_insertSlots (storage : HashMap (Address × U256) U256) (address other : Address)
    (slots : IterMap U256 EvmStorageSlot) (slot : U256) :
    (slots.entries.foldl
      (fun storage entry => storage.insert (address, entry.1) entry.2.presentValue)
      storage)[(other, slot)]? =
      if address = other then
        ((slots.get? slot).map EvmStorageSlot.presentValue).or storage[(other, slot)]?
      else storage[(other, slot)]? := by
  have pointwise := IterMap.foldl_view
    (fun (storage : HashMap (Address × U256) U256) slot => storage[(other, slot)]?)
    (fun storage entry => storage.insert (address, entry.1) entry.2.presentValue)
    (fun value held => if address = other then some value.presentValue else held)
    (by
      intro storage key value slot
      by_cases same : address = other <;> simp [Std.ExtTreeMap.getElem?_insert, same])
    slots storage slot
  rw [pointwise]
  by_cases same : address = other
  · cases slots.get? slot <;> simp [same]
  · cases slots.get? slot <;> simp [same]

/-- Merging an account changes the view of its own address only. -/
theorem view_mergeAccount (self : OverlayState) (address other : Address) (account : Account) :
    (self.mergeAccount address account).view other =
      if address = other then account.mergeView (self.view other) else self.view other := by
  by_cases dead : account.isSelfdestructed
  · by_cases same : address = other
    · subst same
      ext <;> simp [view, mergeAccount, Account.mergeView, dead]
    · have other_ne : other ≠ address := Ne.symm same
      ext <;> simp [view, mergeAccount, dead, same, other_ne, Std.ExtTreeMap.getElem?_erase,
        Option.filter_eq_some_iff]
  · by_cases same : address = other
    · subst same
      ext <;> simp [view, mergeAccount, Account.mergeView, Account.present?, dead,
        getElem?_insertSlots]
    · ext <;> simp [view, mergeAccount, dead, same, Std.ExtTreeMap.getElem?_insert,
        getElem?_insertSlots]

/-- A merge applies each entry to the view of its own address. -/
theorem view_applyEvmState (self : OverlayState) (state : EvmState) (address : Address) :
    (self.applyEvmState state).view address =
      (state.get? address).elim (self.view address) fun account =>
        account.mergeView (self.view address) :=
  IterMap.foldl_view view (fun overlay entry => overlay.mergeAccount entry.1 entry.2)
    Account.mergeView (fun overlay key account other => overlay.view_mergeAccount key other account)
    state self address

@[simp]
theorem lastCommitment_mergeAccount (self : OverlayState) (address : Address)
    (account : Account) : (self.mergeAccount address account).lastCommitment =
      self.lastCommitment := by
  unfold mergeAccount
  split <;> rfl

/-- Merging leaves the recorded commitment alone. -/
@[simp]
theorem commitment_applyEvmState (self : OverlayState) (state : EvmState) :
    (self.applyEvmState state).commitment = self.commitment := by
  unfold applyEvmState commitment
  induction state.entries generalizing self with
  | nil => rfl
  | cons entry rest ih => rw [List.foldl_cons, ih, lastCommitment_mergeAccount]

/-- The merges of a run, one after another. -/
def applyEvmStates (self : OverlayState) (run : List EvmState) : OverlayState :=
  run.foldl applyEvmState self

/-- After a run, the view of an address has seen the entries of its own history. -/
theorem view_applyEvmStates (self : OverlayState) (run : List EvmState) (address : Address) :
    (self.applyEvmStates run).view address =
      (self.view address).mergeAll (history run address) := by
  induction run generalizing self with
  | nil => rfl
  | cons state rest ih =>
      change ((self.applyEvmState state).applyEvmStates rest).view address = _
      rw [ih, view_applyEvmState]
      cases found : state.get? address <;> simp [history, found]

/-- Two overlays which no batch can tell apart, whatever base lies below them. -/
def ReadsSame (left right : OverlayState) : Prop :=
  ∀ (ε : Type) (base : DatabaseRef ε), left.layerOver base = right.layerOver base

end OverlayState

end Zkhood
