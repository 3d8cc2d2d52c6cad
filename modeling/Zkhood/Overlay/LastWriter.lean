import Zkhood.Overlay
import Zkhood.StateProvider

/-!
# Reads after a run of merges

After any run of merges an account reads as its last entry left it, and as the
base has it if the run has no entry for it. Code is kept by its hash and never
removed: what a run has written to the code map is the list of the inline codes
of its entries, in the order of the merges.
-/

namespace Zkhood

/-- The hash and the code which a merge of the account records. -/
def Account.inlineCode? (account : Account) : Option (B256 × Bytecode) :=
  match account.isSelfdestructed, account.info.code with
  | false, some code => if !code.isEmpty then some (account.info.codeHash, code) else none
  | _, _ => none

theorem Account.inlineCode?_eq_some_iff {account : Account} {codeHash : B256} {code : Bytecode} :
    account.inlineCode? = some (codeHash, code) ↔
      ¬account.isSelfdestructed ∧ account.info.code = some code ∧ ¬code.isEmpty ∧
        account.info.codeHash = codeHash := by
  rw [inlineCode?]
  cases account.isSelfdestructed with
  | true => simp
  | false =>
      cases account.info.code with
      | none => simp
      | some inline =>
          simp only [Bool.false_eq_true, not_false_eq_true, true_and, Option.some.injEq,
            Option.ite_none_right_eq_some, Prod.mk.injEq]
          constructor
          · rintro ⟨nonempty, hash, rfl⟩
            exact ⟨rfl, by simpa using nonempty, hash⟩
          · rintro ⟨rfl, nonempty, hash⟩
            exact ⟨by simpa using nonempty, hash, rfl⟩

/-- The writes to the code map which a run of merges makes, oldest first. -/
def codeWrites (run : List EvmState) : List (B256 × Bytecode) :=
  run.flatMap fun state => state.entries.filterMap fun entry => entry.2.inlineCode?

theorem mem_codeWrites {run : List EvmState} {write : B256 × Bytecode} :
    write ∈ codeWrites run ↔ ∃ state ∈ run, ∃ address account,
      state.get? address = some account ∧ account.inlineCode? = some write := by
  simp only [codeWrites, List.mem_flatMap, List.mem_filterMap, IterMap.get?_eq_some_iff,
    Prod.exists]

namespace OverlayState

theorem code_mergeAccount (self : OverlayState) (address : Address) (account : Account) :
    (self.mergeAccount address account).code =
      self.code.insertMany account.inlineCode?.toList := by
  by_cases dead : account.isSelfdestructed
  · simp [mergeAccount, Account.inlineCode?, dead]
  · cases held : account.info.code with
    | none => simp [mergeAccount, insertCode, Account.inlineCode?, dead, held]
    | some code =>
        cases empty : code.isEmpty <;>
          simp [mergeAccount, insertCode, Account.inlineCode?, dead, held, empty]

theorem code_applyEvmState (self : OverlayState) (state : EvmState) :
    (self.applyEvmState state).code = self.code.insertMany (codeWrites [state]) := by
  rw [codeWrites, List.flatMap_singleton, applyEvmState]
  induction state.entries generalizing self with
  | nil => rfl
  | cons entry rest ih =>
      rw [List.foldl_cons, ih, code_mergeAccount, ← Std.ExtTreeMap.insertMany_append]
      congr 1
      cases written : entry.2.inlineCode? <;> simp [written]

theorem code_applyEvmStates (self : OverlayState) (run : List EvmState) :
    (self.applyEvmStates run).code = self.code.insertMany (codeWrites run) := by
  induction run generalizing self with
  | nil => rfl
  | cons state rest ih =>
      change ((self.applyEvmState state).applyEvmStates rest).code = _
      rw [ih, code_applyEvmState, ← Std.ExtTreeMap.insertMany_append]
      congr 1
      simp [codeWrites]

theorem codeByHashRef_layerOver {ε : Type} (self : OverlayState) (base : DatabaseRef ε)
    (codeHash : B256) :
    (self.layerOver base).codeByHashRef codeHash =
      (self.code[codeHash]?).elim (base.codeByHashRef codeHash) .ok := by
  simp only [layerOver]
  cases self.code[codeHash]? <;> rfl

end OverlayState

/-- Only the last entry for an address shows in the account which a view holds. -/
theorem mergeAll_concat_shown (accounts : List Account) (last : Account) (view : AddressView) :
    (view.mergeAll (accounts ++ [last])).info =
        (if last.isSelfdestructed then none else some last.info) ∧
      (view.mergeAll (accounts ++ [last])).destroyed = last.isSelfdestructed := by
  rw [AddressView.mergeAll_concat, Account.mergeView]
  cases last.isSelfdestructed <;> simp

/-- An account read after a run is the last writer's, and so is code which the run recorded. -/
theorem reads_of_last_writer (run : List EvmState) :
    (∀ (ε : Type) (base : DatabaseRef ε) (address : Address),
      ((OverlayState.new.applyEvmStates run).layerOver base).basicRef address =
        match (history run address).getLast? with
        | none => base.basicRef address
        | some account => .ok (if account.isSelfdestructed then none else some account.info)) ∧
    (Consistent (codeWrites run) → ∀ state ∈ run, ∀ address account code,
      state.get? address = some account → ¬account.isSelfdestructed →
        account.info.code = some code → ¬code.isEmpty → ∀ (ε : Type) (base : DatabaseRef ε),
          ((OverlayState.new.applyEvmStates run).layerOver base).codeByHashRef
            account.info.codeHash = .ok code) := by
  constructor
  · intro ε base address
    rw [OverlayState.basicRef_layerOver, OverlayState.view_applyEvmStates]
    rcases List.eq_nil_or_concat (history run address) with untouched | ⟨front, last, split⟩
    · rw [untouched]
      rfl
    · rw [List.concat_eq_append] at split
      have shown := mergeAll_concat_shown front last (OverlayState.new.view address)
      rw [split, List.getLast?_concat, AddressView.basic, shown.1, shown.2]
      cases dead : last.isSelfdestructed <;> simp [dead]
  · intro consistent state state_mem address account code held alive inline nonempty ε base
    have written : (account.info.codeHash, code) ∈ codeWrites run :=
      mem_codeWrites.mpr ⟨state, state_mem, address, account, held,
        Account.inlineCode?_eq_some_iff.mpr ⟨alive, inline, nonempty, rfl⟩⟩
    rw [OverlayState.codeByHashRef_layerOver, OverlayState.code_applyEvmStates,
      HashMap.getElem?_insertMany_of_mem _ consistent written]
    rfl

/-- A contract with the code `5f`, whose slots iterate in the given order. -/
def deployedContract (slots : List (U256 × EvmStorageSlot)) : Account where
  info := { balance := 0, nonce := 1, codeHash := 0xc0de, code := some ⟨[0x5f]⟩ }
  status := { created := true, selfDestructed := false, touched := true }
  storage := IterMap.ofList slots

/-- The same contract, destroyed in the batch which created it. -/
def destroyedContract (slots : List (U256 × EvmStorageSlot)) : Account :=
  { deployedContract slots with
    status := { created := true, selfDestructed := true, touched := true } }

/-- The code of a contract stays, while the contract itself is gone. -/
theorem reads_of_destroyed_contract :
    let run : List EvmState := [IterMap.empty.insert 0x11 (deployedContract []),
      IterMap.empty.insert 0x11 (destroyedContract [])]
    let overlay := OverlayState.new.applyEvmStates run
    let base := MockRobinhoodStateProvider.new.databaseRef
    (overlay.layerOver base).basicRef 0x11 = .ok none ∧
      (overlay.layerOver base).codeByHashRef 0xc0de = .ok ⟨[0x5f]⟩ := by
  intro run overlay base
  have same_code : ∀ write ∈ codeWrites run, write.2 = ⟨[0x5f]⟩ := by decide
  have consistent := consistent_of_same_value same_code
  constructor
  · exact (reads_of_last_writer run).1 Infallible base 0x11
  · exact (reads_of_last_writer run).2 consistent _ List.mem_cons_self 0x11 (deployedContract [])
      ⟨[0x5f]⟩ rfl (by decide) rfl (by decide) Infallible base

end Zkhood
