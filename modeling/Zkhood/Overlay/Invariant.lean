import Zkhood.Overlay.LastWriter

/-!
# The representation invariant of the overlay

The four maps of an overlay fit together after any sequence of merges and
commitments: every address with a merged entry is an account or destroyed, never
both; only accounts have storage; and inline code is in the code map. So the
three maps which `isEmpty` looks at speak for the fourth.
-/

namespace Zkhood

/-- A call which changes an overlay. -/
inductive OverlayCall where
  | applyEvmState (state : EvmState)
  | setCommitment (commitment : Hash)

/-- Some merged state had an entry for the address. -/
def Merged (calls : List OverlayCall) (address : Address) : Prop :=
  ∃ state, .applyEvmState state ∈ calls ∧ (state.get? address).isSome

namespace OverlayState

/-- What a call does to the overlay. -/
def call (self : OverlayState) : OverlayCall → OverlayState
  | .applyEvmState state => self.applyEvmState state
  | .setCommitment commitment => self.setCommitment commitment

/-- What a sequence of calls does to the overlay. -/
def calls (self : OverlayState) (calls : List OverlayCall) : OverlayState :=
  calls.foldl call self

/-- What the maps of an overlay have in common when the addresses with a merged entry are known. -/
structure WellFormed (overlay : OverlayState) (merged : Address → Prop) : Prop where
  disjoint : ∀ address, ¬(address ∈ overlay.accounts ∧ address ∈ overlay.destroyed)
  covered : ∀ address, address ∈ overlay.accounts ∨ address ∈ overlay.destroyed ↔ merged address
  storage : ∀ address slot, (address, slot) ∈ overlay.storage → address ∈ overlay.accounts
  inlineCode : ∀ (address : Address) (info : AccountInfo) (code : Bytecode),
    overlay.accounts[address]? = some info → info.code = some code → ¬code.isEmpty →
      info.codeHash ∈ overlay.code
  code : (∀ address, ¬merged address) → overlay.code = ∅

theorem mem_accounts_iff (self : OverlayState) (address : Address) :
    address ∈ self.accounts ↔ (self.view address).info.isSome :=
  Std.ExtTreeMap.mem_iff_isSome_getElem?

theorem mem_destroyed_iff (self : OverlayState) (address : Address) :
    address ∈ self.destroyed ↔ (self.view address).destroyed :=
  Std.ExtTreeSet.mem_iff_contains

theorem mem_storage_iff (self : OverlayState) (address : Address) (slot : U256) :
    (address, slot) ∈ self.storage ↔ ((self.view address).slots slot).isSome :=
  Std.ExtTreeMap.mem_iff_isSome_getElem?

theorem wellFormed_new : new.WellFormed fun _ => False where
  disjoint := by simp [new]
  covered := by simp [new]
  storage := by simp [new]
  inlineCode := by simp [new]
  code := fun _ => rfl

namespace WellFormed

variable {self : OverlayState} {merged : Address → Prop}

theorem congr {merged' : Address → Prop} (wellFormed : self.WellFormed merged)
    (same : ∀ address, merged address ↔ merged' address) : self.WellFormed merged' := by
  rwa [← funext fun address => propext (same address)]

theorem setCommitment (wellFormed : self.WellFormed merged) (commitment : Hash) :
    (self.setCommitment commitment).WellFormed merged :=
  { wellFormed with }

/-- One entry joins its address to those which are accounts or destroyed. -/
theorem mergeAccount (wellFormed : self.WellFormed merged) (address : Address)
    (account : Account) :
    (self.mergeAccount address account).WellFormed
      fun other => merged other ∨ address = other := by
  constructor
  · intro other
    have disjoint := wellFormed.disjoint other
    rw [mem_accounts_iff, mem_destroyed_iff] at disjoint ⊢
    rw [view_mergeAccount]
    split
    · rw [Account.mergeView]
      split <;> simp
    · exact disjoint
  · intro other
    have covered := wellFormed.covered other
    rw [mem_accounts_iff, mem_destroyed_iff] at covered ⊢
    rw [view_mergeAccount]
    split
    · rw [Account.mergeView]
      split <;> simp_all
    · simp_all
  · intro other slot
    have stored := wellFormed.storage other slot
    rw [mem_accounts_iff, mem_storage_iff] at stored ⊢
    rw [view_mergeAccount]
    split
    · rw [Account.mergeView]
      split <;> simp
    · exact stored
  · intro other info code held inline nonempty
    change ((self.mergeAccount address account).view other).info = some info at held
    rw [code_mergeAccount, Std.ExtTreeMap.mem_insertMany_list]
    rw [view_mergeAccount] at held
    split at held
    · right
      rw [Account.mergeView] at held
      split at held
      · cases held
      · rename_i alive
        cases held
        have recorded : account.inlineCode? = some (account.info.codeHash, code) :=
          Account.inlineCode?_eq_some_iff.mpr ⟨alive, inline, nonempty, rfl⟩
        simp [recorded]
    · exact Or.inl (wellFormed.inlineCode other info code held inline nonempty)
  · exact fun unmerged => absurd (Or.inr rfl) (unmerged address)

/-- Merging keeps the invariant. -/
theorem applyEvmState (wellFormed : self.WellFormed merged) (state : EvmState) :
    (self.applyEvmState state).WellFormed
      fun address => merged address ∨ (state.get? address).isSome := by
  suffices general : ∀ (entries : List (Address × Account)) (self : OverlayState)
      (merged : Address → Prop), self.WellFormed merged →
      (entries.foldl (fun overlay entry => overlay.mergeAccount entry.1 entry.2) self).WellFormed
        fun address => merged address ∨ ∃ entry ∈ entries, entry.1 = address by
    exact (general state.entries self merged wellFormed).congr fun address => by
      rw [state.get?_isSome_iff]
  intro entries
  induction entries with
  | nil => exact fun self merged wellFormed => wellFormed.congr (by simp)
  | cons entry rest ih =>
      intro self merged wellFormed
      refine (ih _ _ (wellFormed.mergeAccount entry.1 entry.2)).congr fun address => ?_
      rw [List.exists_mem_cons_iff, or_assoc]

/-- Every call keeps the invariant. -/
theorem call (wellFormed : self.WellFormed merged) (call : OverlayCall) :
    (self.call call).WellFormed fun address => merged address ∨ Merged [call] address := by
  cases call with
  | applyEvmState state =>
      exact (wellFormed.applyEvmState state).congr fun address => by simp [Merged]
  | setCommitment commitment =>
      exact (wellFormed.setCommitment commitment).congr fun address => by simp [Merged]

end WellFormed

/-- Every overlay which calls reach from a fresh one is well-formed. -/
theorem wellFormed_calls (calls : List OverlayCall) :
    (new.calls calls).WellFormed (Merged calls) := by
  induction calls using List.reverseRecOn with
  | nil => exact wellFormed_new.congr (by simp [Merged])
  | append_singleton calls last ih =>
      rw [OverlayState.calls, List.foldl_append]
      exact (ih.call last).congr (by simp [Merged, or_and_right, exists_or])

theorem isEmpty_iff (self : OverlayState) :
    self.isEmpty ↔ self.accounts = ∅ ∧ self.storage = ∅ ∧ self.destroyed = ∅ := by
  simp only [isEmpty, Bool.and_eq_true, Std.ExtTreeMap.isEmpty_iff, Std.ExtTreeSet.isEmpty_iff,
    and_assoc]

namespace WellFormed

variable {self : OverlayState} {merged : Address → Prop}

/-- A well-formed overlay is empty exactly if nothing was merged. -/
theorem isEmpty_iff (wellFormed : self.WellFormed merged) :
    self.isEmpty ↔ ∀ address, ¬merged address := by
  rw [OverlayState.isEmpty_iff]
  constructor
  · rintro ⟨accounts, -, destroyed⟩ address is_merged
    have held := (wellFormed.covered address).mpr is_merged
    simp [accounts, destroyed] at held
  · intro unmerged
    have unheld : ∀ address, ¬(address ∈ self.accounts ∨ address ∈ self.destroyed) :=
      fun address held => unmerged address ((wellFormed.covered address).mp held)
    simp only [Std.ExtTreeMap.eq_empty_iff_forall_not_mem,
      Std.ExtTreeSet.eq_empty_iff_forall_not_mem]
    refine ⟨fun address held => unheld address (Or.inl held), ?_,
      fun address held => unheld address (Or.inr held)⟩
    exact fun key held => unheld key.1 (Or.inl (wellFormed.storage key.1 key.2 held))

/-- Nothing but an empty overlay is transparent: a merged address hides the base's account. -/
theorem isEmpty_iff_layerOver_eq (wellFormed : self.WellFormed merged) :
    self.isEmpty ↔ ∀ (ε : Type) (base : DatabaseRef ε), self.layerOver base = base := by
  constructor
  · intro empty ε base
    have code := wellFormed.code (wellFormed.isEmpty_iff.mp empty)
    rcases self.isEmpty_iff.mp empty with ⟨accounts, storage, destroyed⟩
    simp [layerOver, accounts, storage, destroyed, code]
  · intro transparent
    rw [wellFormed.isEmpty_iff]
    intro address is_merged
    have shown : ∀ answer, (self.view address).basic (.ok answer) =
        (.ok answer : Except Infallible (Option AccountInfo)) := by
      intro answer
      have same := transparent Infallible
        ⟨fun _ => .ok answer, fun _ => .ok .default, fun _ _ => .ok 0, fun _ => .ok 0⟩
      exact congrFun (congrArg DatabaseRef.basicRef same) address
    have hidden := (wellFormed.covered address).mpr is_merged
    rw [mem_accounts_iff, mem_destroyed_iff] at hidden
    have absent := shown none
    have present := shown (some AccountInfo.default)
    rw [AddressView.basic] at absent present
    cases dead : (self.view address).destroyed with
    | true => simp [dead] at present
    | false =>
        rw [dead] at absent hidden
        rcases Option.isSome_iff_exists.mp (hidden.resolve_right (by simp)) with ⟨info, held⟩
        simp [held] at absent

end WellFormed

end OverlayState

/-- The maps of an overlay fit together after any sequence of calls, and `isEmpty` says that
nothing was ever merged and that the overlay answers no query itself. -/
theorem overlay_representation (calls : List OverlayCall) :
    let overlay := OverlayState.new.calls calls
    overlay.WellFormed (Merged calls) ∧
    (overlay.isEmpty ↔ ∀ address, ¬Merged calls address) ∧
    (overlay.isEmpty ↔ ∀ (ε : Type) (base : DatabaseRef ε), overlay.layerOver base = base) := by
  have wellFormed := OverlayState.wellFormed_calls calls
  exact ⟨wellFormed, wellFormed.isEmpty_iff, wellFormed.isEmpty_iff_layerOver_eq⟩

end Zkhood
