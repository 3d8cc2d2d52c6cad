import Zkhood.Overlay.LastWriter

/-!
# Merges and the order of iteration

REVM reports its changes in a hash map of accounts, each with a hash map of
slots, and every process iterates over them in an order of its own. A merge
leaves the same overlay for all these orders, provided that the entries which
carry the code of one hash carry the same code.
-/

namespace Zkhood

/-- Two accounts which a merge cannot tell apart. -/
structure SameAccount (left right : Account) : Prop where
  info : left.info = right.info
  status : left.status = right.status
  slots : ∀ slot, left.present? slot = right.present? slot

/-- Two states with the same entries, in whatever order they iterate. -/
def EvmState.Same (left right : EvmState) : Prop :=
  ∀ address, Option.Rel SameAccount (left.get? address) (right.get? address)

/-- Two overlays with the same accounts, storage values and destroyed set. -/
structure SameRollupState (left right : OverlayState) : Prop where
  accounts : left.accounts = right.accounts
  storage : left.storage = right.storage
  destroyed : left.destroyed = right.destroyed

/-- What merging a state makes of the view of an address. -/
def EvmState.updateView (diff : EvmState) (address : Address) (view : AddressView) : AddressView :=
  (diff.get? address).elim view fun account => account.mergeView view

/-- Merging reads the flag, the account and the present values, and nothing else. -/
theorem Account.mergeView_congr {left right : Account}
    (flags : left.isSelfdestructed = right.isSelfdestructed) (info : left.info = right.info)
    (slots : ∀ slot, left.present? slot = right.present? slot) :
    left.mergeView = right.mergeView := by
  funext view
  by_cases dead : right.isSelfdestructed
  · simp [mergeView, flags, dead]
  · simp [mergeView, flags, dead, info, slots]

theorem SameAccount.mergeView_eq {left right : Account} (same : SameAccount left right) :
    left.mergeView = right.mergeView :=
  Account.mergeView_congr (congrArg AccountStatus.selfDestructed same.status) same.info same.slots

theorem EvmState.Same.updateView_eq {left right : EvmState} (same : left.Same right)
    (address : Address) : left.updateView address = right.updateView address := by
  funext view
  exact (same address).elim_eq (fun _ _ agree => congrFun agree.mergeView_eq view) view

theorem EvmState.Same.refl (state : EvmState) : state.Same state := by
  intro address
  cases state.get? address with
  | none => exact .none
  | some account => exact .some ⟨rfl, rfl, fun _ => rfl⟩

/-- Two overlays are the same rollup state exactly if all their views agree. -/
theorem sameRollupState_iff {left right : OverlayState} :
    SameRollupState left right ↔ ∀ address, left.view address = right.view address := by
  constructor
  · rintro ⟨accounts, storage, destroyed⟩ address
    simp only [OverlayState.view, accounts, storage, destroyed]
  · intro views
    constructor
    · apply Std.ExtTreeMap.ext_getElem?
      exact fun address => congrArg AddressView.info (views address)
    · apply Std.ExtTreeMap.ext_getElem?
      exact fun key => congrFun (congrArg AddressView.slots (views key.1)) key.2
    · apply Std.ExtTreeSet.ext_contains
      exact fun address => congrArg AddressView.destroyed (views address)

/-- Reordered states are the same. -/
theorem EvmState.Reordered.same {left right : EvmState} (reordered : left.Reordered right) :
    left.Same right :=
  fun address => (IterMap.Reordered.get?_rel reordered address).mono fun _ _ agree =>
    ⟨agree.info, agree.status, agree.present?_eq⟩

theorem mem_codeWrites_singleton {state : EvmState} {write : B256 × Bytecode} :
    write ∈ codeWrites [state] ↔
      ∃ address, (state.get? address).elim none Account.inlineCode? = some write := by
  simp only [mem_codeWrites, List.mem_singleton, exists_eq_left]
  refine exists_congr fun address => ?_
  cases state.get? address <;> simp

theorem EvmState.Same.mem_codeWrites_iff {left right : EvmState} (same : left.Same right)
    (write : B256 × Bytecode) : write ∈ codeWrites [left] ↔ write ∈ codeWrites [right] := by
  simp only [mem_codeWrites_singleton]
  refine exists_congr fun address => ?_
  rw [(same address).elim_eq fun account other agree => ?_]
  rw [Account.inlineCode?, Account.inlineCode?, Account.isSelfdestructed,
    Account.isSelfdestructed, agree.info, agree.status]

/-- A merge does not depend on the order of the accounts, nor of the slots of each account. -/
theorem applyEvmState_eq_of_reordered (self : OverlayState) {left right : EvmState}
    (reordered : left.Reordered right) (consistent : Consistent (codeWrites [left])) :
    self.applyEvmState left = self.applyEvmState right := by
  have same := reordered.same
  have rollup : SameRollupState (self.applyEvmState left) (self.applyEvmState right) := by
    rw [sameRollupState_iff]
    intro address
    rw [OverlayState.view_applyEvmState, OverlayState.view_applyEvmState]
    exact congrFun (same.updateView_eq address) (self.view address)
  have code : (self.applyEvmState left).code = (self.applyEvmState right).code := by
    rw [OverlayState.code_applyEvmState, OverlayState.code_applyEvmState]
    exact self.code.insertMany_congr consistent same.mem_codeWrites_iff
  have commitment := (self.commitment_applyEvmState left).trans
    (self.commitment_applyEvmState right).symm
  exact OverlayState.ext rollup.accounts rollup.storage code rollup.destroyed commitment

/-- Two deployments of one code, reported in either order. -/
theorem applyEvmState_eq_of_reordered_deployments :
    OverlayState.new.applyEvmState
        (IterMap.ofList [(0x11, deployedContract [(1, ⟨7⟩), (2, ⟨8⟩)]),
          (0x22, deployedContract [])]) =
      OverlayState.new.applyEvmState
        (IterMap.ofList [(0x22, deployedContract []),
          (0x11, deployedContract [(2, ⟨8⟩), (1, ⟨7⟩)])]) := by
  apply applyEvmState_eq_of_reordered
  · refine ⟨[(0x22, deployedContract []), (0x11, deployedContract [(1, ⟨7⟩), (2, ⟨8⟩)])],
      List.Perm.swap _ _ [],
      .cons ⟨rfl, rfl, rfl, List.Perm.refl _⟩ (.cons ⟨rfl, rfl, rfl, ?_⟩ .nil)⟩
    exact List.Perm.swap _ _ []
  · have same_code : ∀ write ∈ codeWrites [IterMap.ofList
        [(0x11, deployedContract [(1, ⟨7⟩), (2, ⟨8⟩)]), (0x22, deployedContract [])]],
        write.2 = ⟨[0x5f]⟩ := by
      decide
    exact consistent_of_same_value same_code

end Zkhood
