import Zkhood.Data.Fallible
import Zkhood.Data.Keccak
import Zkhood.Executor
import Zkhood.StateProvider

/-!
# A small EVM

An instance of the `Revm` parameter for concrete batches: plain value transfers
at gas price zero, with REVM's checks of the chain id, the intrinsic gas, the
nonce and the balance, and the accounts it touches, the fee recipient at
address 0 included.

It is less than REVM: no cap on the gas limit (EIP-7825), no precompiles, and a
credit wraps where REVM halts on overflow. `transferDebug` is a short rendering
for batches whose transaction commitment does not matter; `TxEnv.debugBytes` is
the derived one.
-/

namespace Zkhood

/-- Its database, the configured chain, and the accounts in its journal. -/
structure TransferEvm where
  database : DatabaseRef Infallible
  chainId : U64
  journal : EvmState

namespace TransferEvm

/-- An account in the current state: the journal's, else the database's, else an empty one. -/
def account (evm : TransferEvm) (address : Address) : AccountInfo :=
  match evm.journal.get? address with
  | some account => account.info
  | none =>
      match evm.database.basicRef address with
      | .ok answer => answer.getD AccountInfo.default

/-- Write an account to the journal, touched and with the slots it had. -/
def setAccount (evm : TransferEvm) (address : Address) (info : AccountInfo) : TransferEvm :=
  { evm with
    journal := evm.journal.insert address
      { info
        status := { created := false, selfDestructed := false, touched := true }
        storage := ((evm.journal.get? address).map Account.storage).getD IterMap.empty } }

/-- Take the value from the caller and increment its nonce. -/
def debit (evm : TransferEvm) (tx : TxEnv) : TransferEvm :=
  evm.setAccount tx.caller
    { evm.account tx.caller with
      balance := (evm.account tx.caller).balance - tx.value
      nonce := (evm.account tx.caller).nonce + 1 }

/-- Give the value to the target, modulo `2 ^ 256`. -/
def credit (evm : TransferEvm) (target : Address) (value : U256) : TransferEvm :=
  evm.setAccount target
    { evm.account target with balance := (evm.account target).balance + value }

/-- Debit the caller, credit the target, pay a fee of zero. -/
def transfer (evm : TransferEvm) (tx : TxEnv) (target : Address) : TransferEvm :=
  ((evm.debit tx).credit target tx.value).credit 0 0

/-- Check a transaction and execute it. -/
def transactOne (evm : TransferEvm) (tx : TxEnv) : Except String (Unit × TransferEvm) :=
  match tx.kind with
  | .create => .error "not a plain transfer"
  | .call target => do
      let sender := evm.account tx.caller
      ensure (tx.chainId = none ∨ tx.chainId = some evm.chainId) "invalid chain ID"
      ensure (tx.gasPrice = 0 ∧ tx.data = [] ∧ tx.rest = []) "not a free transfer"
      ensure (21000 ≤ tx.gasLimit) "call gas cost exceeds the gas limit"
      ensure (tx.nonce = sender.nonce ∧ sender.nonce ≠ 0xffffffffffffffff) "wrong nonce"
      ensure (tx.value ≤ sender.balance) "lack of funds"
      return ((), evm.transfer tx target)

end TransferEvm

/-- REVM on plain transfers. -/
abbrev transferRevm : Revm Infallible where
  Evm := TransferEvm
  ExecutionResult := Unit
  build database chainId := { database, chainId, journal := IterMap.empty }
  transactOne := TransferEvm.transactOne
  finalize := TransferEvm.journal

/-- The fields in which plain transfers differ, in place of the `Debug` rendering. -/
def transferDebug (tx : TxEnv) : Bytes :=
  tx.caller.toBeBytes 20 ++
    (match tx.kind with
      | .create => []
      | .call target => target.toBeBytes 20) ++
    tx.value.toBeBytes 32 ++ tx.nonce.toBeBytes 8

/-- The executor's parameters with this EVM. -/
abbrev transferRuntime (keccak256 : Bytes → Hash) : Runtime Infallible :=
  { transferRevm with keccak256, txDebug := transferDebug }

/-- A plain transfer, bound to no chain. -/
def transferTx (caller target : Address) (value : U256) (nonce : U64) : TxEnv where
  caller
  kind := .call target
  value
  gasLimit := 21000
  gasPrice := 0
  chainId := none
  nonce
  data := []
  rest := []

/-- The first batch on testnet. -/
def testnetContext : BatchContext where
  chainId := 46630
  rollupAddress := 0
  batchNumber := 1
  teeBatchNonce := 0

/-- Accounts with the given balances, and nothing else. -/
def fundedProvider (balances : List (Address × U256)) : MockRobinhoodStateProvider :=
  balances.foldl (fun provider entry => provider.setAccount entry.1
    (AccountInfo.new entry.2 0 keccakEmpty Bytecode.default)) MockRobinhoodStateProvider.new

namespace TransferEvm

theorem account_setAccount (evm : TransferEvm) (address other : Address) (info : AccountInfo) :
    (evm.setAccount address info).account other =
      if address = other then info else evm.account other := by
  simp only [account, setAccount, IterMap.get?_insert]
  by_cases same : address = other <;> simp [same]

/-- A transaction which is executed is a transfer with the caller's nonce. -/
theorem transactOne_ok {evm next : TransferEvm} {tx : TxEnv} {result : Unit}
    (ok : evm.transactOne tx = .ok (result, next)) :
    ∃ target, tx.kind = .call target ∧ tx.nonce = (evm.account tx.caller).nonce ∧
      tx.nonce ≠ 0xffffffffffffffff ∧ next = evm.transfer tx target := by
  cases kind : tx.kind with
  | create =>
      rw [transactOne, kind] at ok
      cases ok
  | call target =>
      simp only [transactOne, kind, bind_eq_ok_iff, ensure_eq_ok_iff] at ok
      rcases ok with ⟨-, -, -, -, -, -, -, ⟨matching, limited⟩, -, -, returned⟩
      cases returned
      exact ⟨target, rfl, matching, matching ▸ limited, rfl⟩

theorem nonce_setAccount {evm : TransferEvm} {address : Address} {info : AccountInfo}
    (kept : info.nonce = (evm.account address).nonce) (other : Address) :
    ((evm.setAccount address info).account other).nonce = (evm.account other).nonce := by
  rw [account_setAccount]
  split
  · rename_i same
    rw [kept, same]
  · rfl

theorem nonce_credit (evm : TransferEvm) (target : Address) (value : U256) (other : Address) :
    ((evm.credit target value).account other).nonce = (evm.account other).nonce :=
  nonce_setAccount (by rfl) other

theorem nonce_debit (evm : TransferEvm) (tx : TxEnv) (other : Address) :
    ((evm.debit tx).account other).nonce =
      if tx.caller = other then (evm.account tx.caller).nonce + 1
      else (evm.account other).nonce := by
  rw [debit, account_setAccount]
  split <;> rfl

/-- A transfer increments the caller's nonce and no other. -/
theorem nonce_transfer (evm : TransferEvm) (tx : TxEnv) (target other : Address) :
    ((evm.transfer tx target).account other).nonce =
      if tx.caller = other then (evm.account tx.caller).nonce + 1
      else (evm.account other).nonce := by
  rw [transfer, nonce_credit, nonce_credit, nonce_debit]

/-- The journal holds no destroyed account. -/
def Survives (evm : TransferEvm) : Prop :=
  ∀ address account, evm.journal.get? address = some account → ¬account.isSelfdestructed

theorem survives_setAccount {evm : TransferEvm} (survives : evm.Survives) (address : Address)
    (info : AccountInfo) : (evm.setAccount address info).Survives := by
  intro other account held
  rw [setAccount, IterMap.get?_insert] at held
  split at held
  · cases held
    simp [Account.isSelfdestructed]
  · exact survives other account held

theorem survives_transfer {evm : TransferEvm} (survives : evm.Survives) (tx : TxEnv)
    (target : Address) : (evm.transfer tx target).Survives :=
  survives_setAccount (survives_setAccount (survives_setAccount survives _ _) _ _) _ _

theorem present_setAccount {evm : TransferEvm} {other : Address}
    (present : (evm.journal.get? other).isSome) (address : Address) (info : AccountInfo) :
    ((evm.setAccount address info).journal.get? other).isSome := by
  rw [setAccount, IterMap.get?_insert]
  split
  · rfl
  · exact present

theorem present_setAccount_self (evm : TransferEvm) (address : Address) (info : AccountInfo) :
    ((evm.setAccount address info).journal.get? address).isSome := by
  rw [setAccount, IterMap.get?_insert, if_pos rfl]
  rfl

/-- A transfer keeps the accounts of the journal, and writes its caller. -/
theorem present_transfer {evm : TransferEvm} {tx : TxEnv} {target other : Address}
    (present : (evm.journal.get? other).isSome ∨ other = tx.caller) :
    ((evm.transfer tx target).journal.get? other).isSome := by
  apply present_setAccount
  apply present_setAccount
  rcases present with present | rfl
  · exact present_setAccount present _ _
  · exact present_setAccount_self _ _ _

theorem database_transfer (evm : TransferEvm) (tx : TxEnv) (target : Address) :
    (evm.transfer tx target).database = evm.database := rfl

end TransferEvm

theorem transferRevm_txStep {evm next : TransferEvm} {tx : TxEnv}
    (stepped : transferRevm.txStep evm tx = some next) :
    ∃ target, tx.nonce = (evm.account tx.caller).nonce ∧ tx.nonce ≠ 0xffffffffffffffff ∧
      next = evm.transfer tx target := by
  cases executed : evm.transactOne tx with
  | error report => simp [Revm.txStep, transferRevm, executed] at stepped
  | ok reached =>
      rcases reached with ⟨result, final⟩
      rcases TransferEvm.transactOne_ok executed with ⟨target, -, matching, limited, rfl⟩
      simp only [Revm.txStep, transferRevm, executed, Option.some.injEq] at stepped
      exact ⟨target, matching, limited, stepped.symm⟩

/-- The journal of a batch holds its callers, and no destroyed account. -/
theorem transferRevm_reaches {database : DatabaseRef Infallible} {chainId : U64}
    {txs : List TxEnv} {evm : TransferEvm}
    (reaches : transferRevm.Reaches database chainId txs evm) :
    evm.database = database ∧ evm.Survives ∧
      ∀ tx ∈ txs, (evm.journal.get? tx.caller).isSome := by
  refine Trace.run_induction (motive := fun txs (evm : TransferEvm) =>
    evm.database = database ∧ evm.Survives ∧
      ∀ tx ∈ txs, (evm.journal.get? tx.caller).isSome) ?_ ?_ reaches
  · refine ⟨rfl, ?_, by simp⟩
    intro address account held
    cases held
  · rintro txs evm tx next - ⟨same, survives, present⟩ stepped
    rcases transferRevm_txStep stepped with ⟨target, -, -, rfl⟩
    refine ⟨same, TransferEvm.survives_transfer survives tx target, ?_⟩
    intro other other_mem
    apply TransferEvm.present_transfer
    rcases List.mem_append.mp other_mem with earlier | last
    · exact Or.inl (present other earlier)
    · exact Or.inr (by rw [List.mem_singleton.mp last])

/-- A batch of transfers writes its callers and keeps the accounts which the overlay had. -/
theorem info_isSome_of_transfers {keccak256 : Bytes → Hash} {base : DatabaseRef Infallible}
    {overlay next : OverlayState} {ctx : BatchContext} {txs : List TxEnv}
    {outcomes : List (TxOutcome (transferRuntime keccak256).ExecutionResult)}
    {publicValues : PublicValues}
    (ok : applyBatchWithOverlay (transferRuntime keccak256) base overlay ctx txs =
      .ok (outcomes, publicValues, next)) {address : Address}
    (present : (overlay.view address).info.isSome ∨ ∃ tx ∈ txs, tx.caller = address) :
    (next.view address).info.isSome := by
  rcases applyBatchWithOverlay_ok_iff.mp ok with ⟨state, executed, rfl⟩
  rcases (applyBatchStateful_ok executed).1 with ⟨evm, reaches, rfl⟩
  rcases transferRevm_reaches reaches with ⟨-, survives, callers⟩
  rw [OverlayState.view_setCommitment, OverlayState.view_applyEvmState]
  change (((evm.journal.get? address).elim (overlay.view address) fun account =>
    account.mergeView (overlay.view address)).info).isSome
  cases held : evm.journal.get? address with
  | some account =>
      have alive := survives address account held
      simp [Account.mergeView, alive]
  | none =>
      rcases present with written | ⟨tx, tx_mem, rfl⟩
      · exact written
      · have called := callers tx tx_mem
        rw [held] at called
        cases called

end Zkhood
