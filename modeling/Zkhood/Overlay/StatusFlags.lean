import Mathlib.Algebra.Order.BigOperators.Group.List
import Zkhood.Commitment.Canonical
import Zkhood.Data.Keccak
import Zkhood.Overlay.FlatStorage
import Zkhood.Overlay.IterationOrder

/-!
# What the status flags of an account decide

REVM marks each account it reports as created, selfdestructed or touched. A
merge looks at the second flag only, and the commitment at none. This file says
exactly when this is enough: for a commitment to determine what the overlay
reads, for the storage of a created account to be empty, and for an account
which was only loaded to leave no trace.
-/

namespace Zkhood

variable {ε : Type}

/-- Two accounts with the same slot keys, and with the same code if their code hashes are the
same. -/
structure SameShape (left right : Account) : Prop where
  keys : ∀ slot, (left.present? slot).isSome = (right.present? slot).isSome
  code : left.info.codeHash = right.info.codeHash → left.info.code = right.info.code

/-- The states flag the same of their accounts as selfdestructed. -/
def SameDestructions (left right : EvmState) : Prop :=
  ∀ address account other, left.get? address = some account → right.get? address = some other →
    account.isSelfdestructed = other.isSelfdestructed

theorem length_sortedSlots_eq_of_sameShape {left right : Account} (same : SameShape left right) :
    left.sortedSlots.length = right.sortedSlots.length := by
  have counts : ∀ account : Account, account.sortedSlots.length =
      (account.storage.collect fun _ => ()).toList.length := by
    intro account
    rw [Account.sortedSlots, IterMap.toList_collect, IterMap.toList_collect fun _ => (),
      List.length_map, List.length_map]
  rw [counts, counts]
  congr 2
  apply IterMap.collect_congr
  intro slot
  have keys := same.keys slot
  rw [Account.present?, Account.present?, Option.isSome_map, Option.isSome_map] at keys
  cases held : left.storage.get? slot <;> cases found : right.storage.get? slot <;>
    simp [held, found] at keys ⊢

section Commitment

variable {left right : EvmState}

theorem SameChange.info_eq {account other : Account} (change : SameChange account other)
    (shape : SameShape account other) : account.info = other.info := by
  have code := shape.code change.codeHash
  rcases account with ⟨⟨balance, nonce, codeHash, inline⟩, status, storage⟩
  rcases other with ⟨⟨balance', nonce', codeHash', inline'⟩, status', storage'⟩
  rw [AccountInfo.mk.injEq]
  exact ⟨change.balance, change.nonce, change.codeHash, code⟩

theorem view_applyEvmState_eq_of_sameDiff (overlay : OverlayState)
    (shapes : ∀ address, Option.Rel SameShape (left.get? address) (right.get? address))
    (same : SameDiff left right) (destructions : SameDestructions left right)
    (address : Address) :
    (overlay.applyEvmState left).view address = (overlay.applyEvmState right).view address := by
  rw [OverlayState.view_applyEvmState, OverlayState.view_applyEvmState]
  refine (same address).attach.elim_eq ?_ _
  rintro account other ⟨held, found, change⟩
  have shape := shapes address
  rw [held, found] at shape
  cases shape with
  | some shape =>
      exact congrFun (Account.mergeView_congr (destructions address account other held found)
        (change.info_eq shape) change.slots) (overlay.view address)

theorem basic_mergeView (account : Account) (view : AddressView)
    (base : Except ε (Option AccountInfo)) :
    (account.mergeView view).basic base =
      .ok (if account.isSelfdestructed then none else some account.info) := by
  cases dead : account.isSelfdestructed <;> simp [Account.mergeView, AddressView.basic, dead]

/-- Equal commitments determine what the merged overlays read exactly if two states with the same
diff always destroy the same accounts. -/
theorem reads_eq_of_stateCommitment_eq_iff (keccak256 : Bytes → Hash) (overlay : OverlayState)
    (shapes : ∀ address, Option.Rel SameShape (left.get? address) (right.get? address))
    (noCollision : NoCollision keccak256 left right) :
    (stateCommitment keccak256 left = stateCommitment keccak256 right →
      ∀ (ε : Type) (base : DatabaseRef ε) (address : Address),
        ((overlay.applyEvmState left).layerOver base).basicRef address =
          ((overlay.applyEvmState right).layerOver base).basicRef address ∧
        ∀ index, ((overlay.applyEvmState left).layerOver base).storageRef address index =
          ((overlay.applyEvmState right).layerOver base).storageRef address index) ↔
      (SameDiff left right → SameDestructions left right) := by
  constructor
  · intro determined same address account other held found
    have commitments := congrArg keccak256 same.commitmentBytes_eq
    have reads := (determined commitments Infallible
      MockRobinhoodStateProvider.new.databaseRef address).1
    rw [OverlayState.basicRef_layerOver, OverlayState.basicRef_layerOver,
      OverlayState.view_applyEvmState, OverlayState.view_applyEvmState, held, found] at reads
    simp only [Option.elim_some, basic_mergeView, Except.ok.injEq] at reads
    cases dead : account.isSelfdestructed <;> cases gone : other.isSelfdestructed <;>
      simp [dead, gone] at reads ⊢
  · intro sufficient commitments ε base address
    have layouts := layout_eq_of_rel shapes fun _ _ shape =>
      length_sortedSlots_eq_of_sameShape shape
    have same := sameDiff_of_commitmentBytes_eq layouts (noCollision commitments)
    have views := view_applyEvmState_eq_of_sameDiff overlay shapes same (sufficient same)
    refine ⟨?_, fun index => ?_⟩
    · rw [OverlayState.basicRef_layerOver, OverlayState.basicRef_layerOver, views]
    · rw [OverlayState.storageRef_layerOver, OverlayState.storageRef_layerOver, views]

end Commitment

/-- The commitment is the same whether a batch destroys the contract which it creates or not, but
the account is there in one overlay only. -/
theorem stateCommitment_eq_of_destruction :
    let left : EvmState := IterMap.empty.insert 0x11 (destroyedContract [])
    let right : EvmState := IterMap.empty.insert 0x11 (deployedContract [])
    let base := MockRobinhoodStateProvider.new.databaseRef
    (∀ address, Option.Rel SameShape (left.get? address) (right.get? address)) ∧
      (∀ keccak256, stateCommitment keccak256 left = stateCommitment keccak256 right) ∧
      ((OverlayState.new.applyEvmState left).layerOver base).basicRef 0x11 ≠
        ((OverlayState.new.applyEvmState right).layerOver base).basicRef 0x11 := by
  intro left right base
  have related {related : Account → Account → Prop}
      (holds : related (destroyedContract []) (deployedContract [])) (address : Address) :
      Option.Rel related (left.get? address) (right.get? address) :=
    IterMap.Reordered.get?_rel ⟨_, List.Perm.refl _, .cons ⟨rfl, holds⟩ .nil⟩ address
  have same : SameDiff left right := related ⟨rfl, rfl, rfl, fun _ => rfl⟩
  refine ⟨related ⟨fun _ => rfl, fun _ => rfl⟩, fun keccak256 => ?_, by decide⟩
  exact congrArg keccak256 same.commitmentBytes_eq

theorem reads_eq_of_destructions :
    let left : EvmState := IterMap.empty.insert 0x11 (destroyedContract [(1, ⟨7⟩), (2, ⟨8⟩)])
    let right : EvmState := IterMap.empty.insert 0x11 (destroyedContract [(2, ⟨8⟩), (1, ⟨7⟩)])
    let base := (MockRobinhoodStateProvider.new.setStorage 0x11 1 9).databaseRef
    ((OverlayState.new.applyEvmState left).layerOver base).storageRef 0x11 1 =
      ((OverlayState.new.applyEvmState right).layerOver base).storageRef 0x11 1 := by
  intro left right base
  have reordered : left.Reordered right :=
    ⟨_, List.Perm.refl _, .cons ⟨rfl, rfl, rfl, List.Perm.swap _ _ []⟩ .nil⟩
  have same := reordered.sameDiff
  have commitments := congrArg Keccak.hash same.commitmentBytes_eq
  have shapes (address : Address) :
      Option.Rel SameShape (left.get? address) (right.get? address) :=
    (IterMap.Reordered.get?_rel reordered address).mono fun _ _ agree =>
      ⟨fun slot => by rw [agree.present?_eq], fun _ => by rw [agree.info]⟩
  have destructions : SameDestructions left right := by
    intro address account other held found
    have agree := IterMap.Reordered.get?_rel reordered address
    rw [held, found] at agree
    cases agree with
    | some agree => rw [Account.isSelfdestructed, Account.isSelfdestructed, agree.status]
  exact ((reads_eq_of_stateCommitment_eq_iff Keccak.hash OverlayState.new shapes
    fun _ => same.commitmentBytes_eq).mpr (fun _ => destructions) commitments Infallible base
      0x11).2 1

section Created

variable {slot : U256}

/-- Entries which do not write a slot leave it as it was, unless one of them destroys. -/
theorem slots_mergeAll {accounts : List Account}
    (unwritten : ∀ account ∈ accounts, account.present? slot = none) (view : AddressView) :
    (view.mergeAll accounts).slots slot =
      if accounts.any Account.isSelfdestructed then none else view.slots slot := by
  induction accounts generalizing view with
  | nil => rfl
  | cons account rest ih =>
      rw [List.forall_mem_cons] at unwritten
      rw [AddressView.mergeAll_cons, ih unwritten.2, List.any_cons]
      cases dead : account.isSelfdestructed <;> simp [Account.mergeView, dead, unwritten.1]

theorem destroyed_mergeAll (accounts : List Account) (view : AddressView) :
    (view.mergeAll accounts).destroyed =
      accounts.getLast?.elim view.destroyed Account.isSelfdestructed := by
  rcases List.eq_nil_or_concat accounts with rfl | ⟨front, last, rfl⟩
  · rfl
  · rw [List.concat_eq_append, (mergeAll_concat_shown front last view).2, List.getLast?_concat]
    rfl

theorem slot_mergeAll {account : Account} {later : List Account}
    (alive : ¬account.isSelfdestructed)
    (unwritten : ∀ entry ∈ account :: later, entry.present? slot = none) (view : AddressView)
    (answer : Except ε U256) :
    (view.mergeAll (account :: later)).slot slot answer =
      if later.getLast?.any Account.isSelfdestructed then .ok 0
      else if later.any Account.isSelfdestructed then answer
      else (view.slots slot).elim answer .ok := by
  have slots := slots_mergeAll unwritten view
  have destroyed := destroyed_mergeAll (account :: later) view
  rw [Bool.not_eq_true] at alive
  rw [List.any_cons, alive, Bool.false_or] at slots
  have ends : (account :: later).getLast?.elim view.destroyed Account.isSelfdestructed =
      later.getLast?.any Account.isSelfdestructed := by
    rcases List.eq_nil_or_concat later with rfl | ⟨front, last, rfl⟩
    · exact alive
    · rw [List.concat_eq_append, ← List.cons_append, List.getLast?_concat, List.getLast?_concat]
      rfl
  rw [ends] at destroyed
  have destroyed_of_ends : later.getLast?.any Account.isSelfdestructed →
      later.any Account.isSelfdestructed := by
    rw [Option.any_eq_true, List.any_eq_true]
    rintro ⟨last, last_eq, dead⟩
    exact ⟨last, List.mem_of_getLast? last_eq, dead⟩
  rw [AddressView.slot, slots, destroyed]
  by_cases dead : later.getLast?.any Account.isSelfdestructed
  · rw [if_pos (destroyed_of_ends dead), if_pos dead, if_pos dead]
  · by_cases wiped : later.any Account.isSelfdestructed
    · rw [if_pos wiped, if_neg dead, if_neg dead, if_pos wiped]
    · rw [if_neg wiped, if_neg dead, if_neg dead, if_neg wiped]
      cases view.slots slot <;> rfl

/-- The storage of a created account stays empty exactly if nothing below the account shows: the
last later entry destroys the account, or what the overlay kept of the slot, or the base below
it, is 0. -/
theorem storageRef_created_eq_zero_iff (overlay : OverlayState) {state : EvmState}
    {address : Address} {account : Account} (entry : state.get? address = some account)
    (_created : account.isCreated) (alive : ¬account.isSelfdestructed)
    (unwritten : account.present? slot = none) {rest : List EvmState}
    (quiet : ∀ later ∈ history rest address, later.present? slot = none)
    (base : DatabaseRef ε) :
    ((overlay.applyEvmStates (state :: rest)).layerOver base).storageRef address slot = .ok 0 ↔
      (history rest address).getLast?.any Account.isSelfdestructed ∨
        if (history rest address).any Account.isSelfdestructed then
          base.storageRef address slot = .ok 0
        else (overlay.storage[(address, slot)]?).elim (base.storageRef address slot = .ok 0)
          fun kept => kept = 0 := by
  have run : history (state :: rest) address = account :: history rest address := by
    simp [history, entry]
  rw [OverlayState.storageRef_layerOver, OverlayState.view_applyEvmStates, run,
    slot_mergeAll alive (List.forall_mem_cons.mpr ⟨unwritten, quiet⟩)]
  by_cases dead : (history rest address).getLast?.any Account.isSelfdestructed
  · simp only [dead, if_true, true_or]
  · rw [if_neg dead, or_iff_right dead]
    split
    · rfl
    · change (overlay.storage[(address, slot)]?.elim _ _ = _) ↔ _
      cases overlay.storage[(address, slot)]? with
      | none => rfl
      | some kept => exact ⟨Except.ok.inj, congrArg Except.ok⟩

end Created

/-- A base which has acquired storage at the contract's address shows below a created account. -/
theorem storageRef_created_eq_base :
    let state : EvmState := IterMap.empty.insert 0x11 (deployedContract [])
    let base := (MockRobinhoodStateProvider.new.setStorage 0x11 1 7).databaseRef
    (deployedContract []).isCreated ∧ ¬(deployedContract []).isSelfdestructed ∧
      (deployedContract []).present? 1 = none ∧
      ((OverlayState.new.applyEvmState state).layerOver base).storageRef 0x11 1 = .ok 7 := by
  decide

theorem storageRef_created_eq_zero :
    let state : EvmState := IterMap.empty.insert 0x11 (deployedContract [])
    let touch : EvmState := IterMap.empty.insert 0x11 (flaggedAccount false)
    let overlay := OverlayState.new.applyEvmStates [state, touch]
    let base := (MockRobinhoodStateProvider.new.setStorage 0x11 2 7).databaseRef
    (overlay.layerOver base).storageRef 0x11 1 = .ok 0 := by
  intro state touch overlay base
  have entry : state.get? 0x11 = some (deployedContract []) := rfl
  have quiet : ∀ later ∈ history [touch] 0x11, later.present? 1 = none := by decide
  have empty : base.storageRef 0x11 1 = .ok 0 := rfl
  exact (storageRef_created_eq_zero_iff OverlayState.new entry rfl (by decide) rfl quiet
    base).mpr (.inr empty)

section Untouched

/-- The state without the entries of accounts which were only loaded. -/
def EvmState.touchedOnly (state : EvmState) : EvmState := state.filter Account.isTouched

theorem EvmState.touchedOnly_eq_self_iff (state : EvmState) :
    state.touchedOnly = state ↔ ∀ entry ∈ state.entries, entry.2.isTouched := by
  rw [IterMap.ext_iff]
  exact List.filter_eq_self

/-- Every entry adds to the length of the hashed bytes. -/
theorem touchedOnly_eq_of_commitmentBytes_eq {state : EvmState}
    (same : commitmentBytes state = commitmentBytes state.touchedOnly) :
    state.touchedOnly = state := by
  have lengths := congrArg List.length same
  have kept : state.touchedOnly.entries.Sublist state.entries := List.filter_sublist
  have counts := kept.length_le
  have slots : (state.touchedOnly.entries.map fun entry => entry.2.storage.entries.length).sum ≤
      (state.entries.map fun entry => entry.2.storage.entries.length).sum :=
    (kept.map _).sum_le_sum fun _ _ => Nat.zero_le _
  rw [length_commitmentBytes_eq_sum, length_commitmentBytes_eq_sum] at lengths
  exact IterMap.ext (kept.eq_of_length (by omega))

/-- Accounts which a batch only loaded leave no trace exactly if there are none. -/
theorem untouched_inert_iff (keccak256 : Bytes → Hash) (overlay : OverlayState)
    (state : EvmState) (noCollision : NoCollision keccak256 state state.touchedOnly) :
    ((overlay.applyEvmState state).ReadsSame (overlay.applyEvmState state.touchedOnly) ∧
        stateCommitment keccak256 state = stateCommitment keccak256 state.touchedOnly) ↔
      ∀ entry ∈ state.entries, entry.2.isTouched := by
  rw [← state.touchedOnly_eq_self_iff]
  constructor
  · rintro ⟨-, commitments⟩
    exact touchedOnly_eq_of_commitmentBytes_eq (noCollision commitments)
  · intro same
    rw [same]
    exact ⟨fun _ _ => rfl, rfl⟩

/-- The view reads as it would after a merge of the account, whatever base lies below. -/
structure Account.Repeats (account : Account) (view : AddressView) : Prop where
  destroyed : view.destroyed = account.isSelfdestructed
  empty : account.isSelfdestructed → ∀ slot, (view.slots slot).getD 0 = 0
  info : ¬account.isSelfdestructed → view.info = some account.info
  slots : ¬account.isSelfdestructed → ∀ slot value,
    account.present? slot = some value → view.slots slot = some value

theorem Account.Repeats.basic_mergeView {account : Account} {view : AddressView}
    (repeats : account.Repeats view) (base : Except ε (Option AccountInfo)) :
    (account.mergeView view).basic base = view.basic base := by
  rw [Zkhood.basic_mergeView, AddressView.basic, repeats.destroyed]
  cases dead : account.isSelfdestructed with
  | true => rfl
  | false => simp [repeats.info (by simp [dead])]

theorem Account.Repeats.slot_mergeView {account : Account} {view : AddressView}
    (repeats : account.Repeats view) (slot : U256) (base : Except ε U256) :
    (account.mergeView view).slot slot base = view.slot slot base := by
  rw [AddressView.slot, AddressView.slot, repeats.destroyed]
  cases dead : account.isSelfdestructed with
  | true =>
      have empty := repeats.empty dead slot
      cases held : view.slots slot <;> simp_all [Account.mergeView]
  | false =>
      cases written : account.present? slot with
      | none => simp [Account.mergeView, dead, written]
      | some value =>
          simp [Account.mergeView, dead, written, repeats.slots (by simp [dead]) slot value written]

/-- Above a base which answers nothing, a view shows what it holds itself. -/
theorem Account.repeats_of_unanswered {account : Account} {view : AddressView}
    (basic : (account.mergeView view).basic (Except.error ()) = view.basic (Except.error ()))
    (slots : ∀ slot, (account.mergeView view).slot slot (Except.error ()) =
      view.slot slot (Except.error ())) : account.Repeats view := by
  rw [Zkhood.basic_mergeView, AddressView.basic] at basic
  cases dead : account.isSelfdestructed with
  | true =>
      have destroyed : view.destroyed = true := by
        cases gone : view.destroyed <;> cases held : view.info <;>
          simp [dead, gone, held] at basic ⊢
      refine ⟨by rw [destroyed, dead], ?_, by simp [dead], by simp [dead]⟩
      intro _ slot
      have empty := slots slot
      cases held : view.slots slot <;>
        simp [AddressView.slot, Account.mergeView, dead, destroyed, held] at empty ⊢
      exact empty.symm
  | false =>
      obtain ⟨alive, info⟩ : view.destroyed = false ∧ view.info = some account.info := by
        cases gone : view.destroyed <;> cases held : view.info <;>
          simp [dead, gone, held] at basic ⊢
        exact basic.symm
      refine ⟨by rw [alive, dead], by simp [dead], fun _ => info, ?_⟩
      intro _ slot value written
      have shown := slots slot
      cases held : view.slots slot <;>
        simp [AddressView.slot, Account.mergeView, dead, alive, written, held] at shown ⊢
      exact shown.symm

/-- The untouched entries change no read of an account or a slot exactly if each of them repeats
what the overlay holds. Otherwise they hide the base, now and later. -/
theorem reads_eq_touchedOnly_iff (overlay : OverlayState) (state : EvmState) :
    (∀ (ε : Type) (base : DatabaseRef ε) (address : Address),
      ((overlay.applyEvmState state).layerOver base).basicRef address =
        ((overlay.applyEvmState state.touchedOnly).layerOver base).basicRef address ∧
      ∀ index, ((overlay.applyEvmState state).layerOver base).storageRef address index =
        ((overlay.applyEvmState state.touchedOnly).layerOver base).storageRef address index) ↔
      ∀ address account, state.get? address = some account → ¬account.isTouched →
        account.Repeats (overlay.view address) := by
  have kept (address : Address) : state.touchedOnly.get? address =
      (state.get? address).filter Account.isTouched := state.get?_filter _ address
  simp only [OverlayState.basicRef_layerOver, OverlayState.storageRef_layerOver,
    OverlayState.view_applyEvmState, kept]
  constructor
  · intro same address account held untouched
    let silent : DatabaseRef Unit :=
      ⟨fun _ => .error (), fun _ => .error (), fun _ _ => .error (), fun _ => .error ()⟩
    have reads := same Unit silent address
    simp only [held, Option.filter_some, if_neg untouched, Option.elim_some, Option.elim_none]
      at reads
    exact Account.repeats_of_unanswered reads.1 reads.2
  · intro repeats ε base address
    cases held : state.get? address with
    | none => exact ⟨rfl, fun _ => rfl⟩
    | some account =>
        by_cases touched : account.isTouched
        · simp only [Option.filter_some, if_pos touched, implies_true, and_self]
        · have repeats := repeats address account held touched
          simp only [Option.filter_some, if_neg touched, Option.elim_some, Option.elim_none]
          exact ⟨repeats.basic_mergeView _, fun index => repeats.slot_mergeView index _⟩

end Untouched

/-- An account which a batch loaded, found not to exist, and did not touch. -/
def loadedAccount : Account where
  info := AccountInfo.default
  status := { created := false, selfDestructed := false, touched := false }
  storage := IterMap.empty

/-- A loaded account hides the account which the base has later, and is committed to. -/
theorem untouched_hides_base :
    let state : EvmState := IterMap.empty.insert 0x11 loadedAccount
    let base := (MockRobinhoodStateProvider.new.setAccount 0x11
      { AccountInfo.default with balance := 5 }).databaseRef
    ((OverlayState.new.applyEvmState state).layerOver base).basicRef 0x11 ≠
        ((OverlayState.new.applyEvmState state.touchedOnly).layerOver base).basicRef 0x11 ∧
      stateCommitment Keccak.hash state ≠ stateCommitment Keccak.hash state.touchedOnly := by
  decide +kernel

theorem untouched_inert_of_deployment :
    let state : EvmState := IterMap.empty.insert 0x11 (deployedContract [(1, ⟨7⟩)])
    (OverlayState.new.applyEvmState state).ReadsSame
        (OverlayState.new.applyEvmState state.touchedOnly) ∧
      stateCommitment Keccak.hash state = stateCommitment Keccak.hash state.touchedOnly := by
  intro state
  have touched : ∀ entry ∈ state.entries, entry.2.isTouched := by decide
  have noCollision : NoCollision Keccak.hash state state.touchedOnly := by
    rw [state.touchedOnly_eq_self_iff.mpr touched]
    exact fun _ => rfl
  exact (untouched_inert_iff Keccak.hash OverlayState.new state noCollision).mpr touched

end Zkhood
