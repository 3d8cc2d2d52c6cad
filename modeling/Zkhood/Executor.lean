import Zkhood.Commitment
import Zkhood.Data.Fallible
import Zkhood.Data.Trace
import Zkhood.Overlay

/-!
# The batch executor

`applyBatchStateful` runs an ordered batch of transactions with REVM against a
provider and reports the batch's public values; `applyBatchWithOverlay` runs it
over a layered overlay and merges the changes back. The TEE worker calls the
latter and the SP1 guest calls `applyBatch`.

REVM is code outside the repository. It enters as a parameter: the type of its
EVM, a builder, one transaction, and the final extraction of the changes. The
executor hands it a database only when the EVM is built.
-/

namespace Zkhood

/-- Everything both the TEE and the SP1 guest must commit to identically for a batch. -/
@[ext]
structure PublicValues where
  chainId : U64
  rollupAddress : Address
  batchNumber : U64
  teeBatchNonce : U64
  oldStateCommitment : Hash
  newStateCommitment : Hash
  txCommitment : Hash
  txCount : U32
deriving DecidableEq

/-- Chain/rollup/batch identity a batch of transactions is bound to. -/
structure BatchContext where
  chainId : U64
  rollupAddress : Address
  batchNumber : U64
  teeBatchNonce : U64
deriving DecidableEq

/-- What a transaction does: create a contract, or call an address. -/
inductive TxKind where
  | create
  | call (target : Address)
deriving DecidableEq

/-- A transaction: the fields which the repository sets, the calldata, and the rest of what REVM
executes (type, access list, fee caps, blobs and authorizations). -/
structure TxEnv where
  caller : Address
  kind : TxKind
  value : U256
  gasLimit : U64
  gasPrice : BitVec 128
  chainId : Option U64
  nonce : U64
  data : Bytes
  rest : Bytes
deriving DecidableEq

/-- The result of one transaction. -/
structure TxOutcome (ExecutionResult : Type) where
  result : ExecutionResult

/-- Why a batch failed: its provider, or the execution of a transaction. -/
inductive BatchError (ε : Type) where
  | database (error : ε)
  | execution (message : String)

/-- REVM over databases whose queries fail with `ε`. -/
structure Revm (ε : Type) where
  /-- The EVM: its configuration, its cached database and its journal. -/
  Evm : Type
  ExecutionResult : Type
  /-- A fresh EVM over a database, configured for a chain. -/
  build : DatabaseRef ε → U64 → Evm
  /-- Execute one transaction, accumulating its changes in the journal. -/
  transactOne : Evm → TxEnv → Except String (ExecutionResult × Evm)
  /-- The changes accumulated in the journal. -/
  finalize : Evm → EvmState

/-- The code outside the repository which the executor calls. -/
structure Runtime (ε : Type) extends Revm ε where
  keccak256 : Bytes → Hash
  /-- The bytes of a transaction's `Debug` rendering. -/
  txDebug : TxEnv → Bytes

variable {ε : Type}

/-- The hash of a transaction's rendering. -/
def txCommitmentEntry (runtime : Runtime ε) (tx : TxEnv) : Hash :=
  runtime.keccak256 (runtime.txDebug tx)

/-- The hash of the concatenated hashes. -/
def keccak256ConcatHashes (keccak256 : Bytes → Hash) (hashes : List Hash) : Hash :=
  keccak256 (hashes.foldl (fun buf hash => buf ++ hash.toBeBytes 32) [])

/-- The loop over the transactions of a batch. -/
def transactAll (runtime : Runtime ε) (evm : runtime.Evm)
    (outcomes : List (TxOutcome runtime.ExecutionResult)) (txHashes : List Hash) :
    List TxEnv → Except (BatchError ε)
      (List (TxOutcome runtime.ExecutionResult) × List Hash × runtime.Evm)
  | [] => .ok (outcomes, txHashes, evm)
  | tx :: txs =>
      let txHash := txCommitmentEntry runtime tx
      match runtime.transactOne evm tx with
      | .error _ => .error (.execution "revm transaction failed")
      | .ok (result, evm) =>
          transactAll runtime evm (outcomes ++ [⟨result⟩]) (txHashes ++ [txHash]) txs

/-- Runs `txs` in order against `provider`, and also returns the changes REVM reports. -/
def applyBatchStateful (runtime : Runtime ε) (provider : DatabaseRef ε) (ctx : BatchContext)
    (oldStateCommitment : Hash) (txs : List TxEnv) :
    Except (BatchError ε)
      (List (TxOutcome runtime.ExecutionResult) × PublicValues × EvmState) := do
  let evm := runtime.build provider ctx.chainId
  let (outcomes, txHashes, evm) ← transactAll runtime evm [] [] txs
  let state := runtime.finalize evm
  let publicValues := {
    chainId := ctx.chainId
    rollupAddress := ctx.rollupAddress
    batchNumber := ctx.batchNumber
    teeBatchNonce := ctx.teeBatchNonce
    oldStateCommitment
    newStateCommitment := stateCommitment runtime.keccak256 state
    txCommitment := keccak256ConcatHashes runtime.keccak256 txHashes
    txCount := BitVec.ofNat 32 outcomes.length }
  return (outcomes, publicValues, state)

/-- The same batch without REVM's changes. -/
def applyBatch (runtime : Runtime ε) (provider : DatabaseRef ε) (ctx : BatchContext)
    (oldStateCommitment : Hash) (txs : List TxEnv) :
    Except (BatchError ε) (List (TxOutcome runtime.ExecutionResult) × PublicValues) := do
  let (outcomes, publicValues, _state) ←
    applyBatchStateful runtime provider ctx oldStateCommitment txs
  return (outcomes, publicValues)

/-- Executes a batch on top of a durable overlay and returns the updated overlay. -/
def applyBatchWithOverlay (runtime : Runtime ε) (base : DatabaseRef ε) (overlay : OverlayState)
    (ctx : BatchContext) (txs : List TxEnv) :
    Except (BatchError ε)
      (List (TxOutcome runtime.ExecutionResult) × PublicValues × OverlayState) := do
  let oldStateCommitment := overlay.commitment
  let (outcomes, publicValues, state) ←
    applyBatchStateful runtime (overlay.layerOver base) ctx oldStateCommitment txs
  let overlay := overlay.applyEvmState state
  let overlay := overlay.setCommitment publicValues.newStateCommitment
  return (outcomes, publicValues, overlay)

/-- One transaction as a step of the EVM. -/
def Revm.txStep (revm : Revm ε) (evm : revm.Evm) (tx : TxEnv) : Option revm.Evm :=
  match revm.transactOne evm tx with
  | .error _ => none
  | .ok (_, next) => some next

theorem Revm.txStep_of_ok {revm : Revm ε} {evm next : revm.Evm} {tx : TxEnv}
    {result : revm.ExecutionResult} (executed : revm.transactOne evm tx = .ok (result, next)) :
    revm.txStep evm tx = some next := by
  rw [txStep, executed]

/-- A completed loop is a run of the EVM, with one outcome and one hash a transaction. -/
theorem transactAll_ok {runtime : Runtime ε} {evm final : runtime.Evm} {txs : List TxEnv}
    {outcomes results : List (TxOutcome runtime.ExecutionResult)} {txHashes hashes : List Hash}
    (ok : transactAll runtime evm outcomes txHashes txs = .ok (results, hashes, final)) :
    Trace.run runtime.txStep evm txs = some final ∧
      results.length = outcomes.length + txs.length ∧
      hashes = txHashes ++ txs.map (txCommitmentEntry runtime) := by
  induction txs generalizing evm outcomes txHashes with
  | nil =>
      cases ok
      simp [Trace.run]
  | cons tx rest ih =>
      simp only [transactAll] at ok
      split at ok
      · cases ok
      · rename_i result next executed
        rcases ih ok with ⟨ran, counted, hashed⟩
        refine ⟨?_, ?_, ?_⟩
        · rw [Trace.run, Revm.txStep_of_ok executed]
          exact ran
        · simp only [List.length_append, List.length_cons, List.length_nil] at counted ⊢
          omega
        · simp [hashed]

/-- A call succeeds exactly if its loop does, and then returns the outcomes of the loop, the public
values about it and the changes of the EVM it left. -/
theorem applyBatchStateful_eq_ok_iff {runtime : Runtime ε} {provider : DatabaseRef ε}
    {ctx : BatchContext} {oldStateCommitment : Hash} {txs : List TxEnv}
    {outcomes : List (TxOutcome runtime.ExecutionResult)} {publicValues : PublicValues}
    {state : EvmState} :
    applyBatchStateful runtime provider ctx oldStateCommitment txs =
        .ok (outcomes, publicValues, state) ↔
      ∃ txHashes evm,
        transactAll runtime (runtime.build provider ctx.chainId) [] [] txs =
          .ok (outcomes, txHashes, evm) ∧
        state = runtime.finalize evm ∧
        publicValues =
          { chainId := ctx.chainId
            rollupAddress := ctx.rollupAddress
            batchNumber := ctx.batchNumber
            teeBatchNonce := ctx.teeBatchNonce
            oldStateCommitment
            newStateCommitment := stateCommitment runtime.keccak256 state
            txCommitment := keccak256ConcatHashes runtime.keccak256 txHashes
            txCount := BitVec.ofNat 32 outcomes.length } := by
  rw [applyBatchStateful, bind_eq_ok_iff]
  constructor
  · rintro ⟨⟨results, txHashes, evm⟩, executed, returned⟩
    cases returned
    exact ⟨txHashes, evm, executed, rfl, rfl⟩
  · rintro ⟨txHashes, evm, executed, rfl, rfl⟩
    exact ⟨(outcomes, txHashes, evm), executed, rfl⟩

/-- What a successful batch returns, field by field. -/
theorem applyBatchStateful_ok {runtime : Runtime ε} {provider : DatabaseRef ε}
    {ctx : BatchContext} {oldStateCommitment : Hash} {txs : List TxEnv}
    {outcomes : List (TxOutcome runtime.ExecutionResult)} {publicValues : PublicValues}
    {state : EvmState}
    (ok : applyBatchStateful runtime provider ctx oldStateCommitment txs =
      .ok (outcomes, publicValues, state)) :
    (∃ evm, Trace.run runtime.txStep (runtime.build provider ctx.chainId) txs = some evm ∧
      state = runtime.finalize evm) ∧
    outcomes.length = txs.length ∧
    publicValues.oldStateCommitment = oldStateCommitment ∧
    publicValues.newStateCommitment = stateCommitment runtime.keccak256 state := by
  rcases applyBatchStateful_eq_ok_iff.mp ok with ⟨txHashes, evm, ran, rfl, rfl⟩
  rcases transactAll_ok ran with ⟨executed, counted, -⟩
  exact ⟨⟨evm, executed, rfl⟩, by simpa using counted, rfl, rfl⟩

/-- A batch over an overlay is a batch over the layered database, then a merge. -/
theorem applyBatchWithOverlay_ok_iff {runtime : Runtime ε} {base : DatabaseRef ε}
    {overlay next : OverlayState} {ctx : BatchContext} {txs : List TxEnv}
    {outcomes : List (TxOutcome runtime.ExecutionResult)} {publicValues : PublicValues} :
    applyBatchWithOverlay runtime base overlay ctx txs = .ok (outcomes, publicValues, next) ↔
      ∃ state, applyBatchStateful runtime (overlay.layerOver base) ctx overlay.commitment txs =
          .ok (outcomes, publicValues, state) ∧
        next = (overlay.applyEvmState state).setCommitment publicValues.newStateCommitment := by
  rw [applyBatchWithOverlay, bind_eq_ok_iff]
  constructor
  · rintro ⟨⟨results, values, state⟩, executed, returned⟩
    cases returned
    exact ⟨state, executed, rfl⟩
  · rintro ⟨state, executed, rfl⟩
    exact ⟨(outcomes, publicValues, state), executed, rfl⟩

/-- The commitments of a successful batch chain the overlay's. -/
theorem applyBatchWithOverlay_commitments {runtime : Runtime ε} {base : DatabaseRef ε}
    {overlay next : OverlayState} {ctx : BatchContext} {txs : List TxEnv}
    {outcomes : List (TxOutcome runtime.ExecutionResult)} {publicValues : PublicValues}
    (ok : applyBatchWithOverlay runtime base overlay ctx txs =
      .ok (outcomes, publicValues, next)) :
    publicValues.oldStateCommitment = overlay.commitment ∧
      next.commitment = publicValues.newStateCommitment := by
  rcases applyBatchWithOverlay_ok_iff.mp ok with ⟨state, batch, rfl⟩
  rcases applyBatchStateful_ok batch with ⟨-, -, old, -⟩
  exact ⟨old, rfl⟩

section Batches

/-- A batch and the base state which it executes over. -/
structure Batch (ε : Type) where
  base : DatabaseRef ε
  ctx : BatchContext
  txs : List TxEnv

/-- The EVM after the first transactions of a batch. -/
def Revm.Reaches (revm : Revm ε) (database : DatabaseRef ε) (chainId : U64) (txs : List TxEnv)
    (evm : revm.Evm) : Prop :=
  Trace.run revm.txStep (revm.build database chainId) txs = some evm

/-- The changes which REVM reports for a batch over an overlay. -/
def batchDiff (runtime : Runtime ε) (overlay : OverlayState) (batch : Batch ε) :
    Option EvmState :=
  match applyBatchStateful runtime (overlay.layerOver batch.base) batch.ctx overlay.commitment
      batch.txs with
  | .ok (_, _, state) => some state
  | .error _ => none

/-- A batch as a step of the overlay. -/
def batchStep (runtime : Runtime ε) (overlay : OverlayState) (batch : Batch ε) :
    Option OverlayState :=
  match applyBatchWithOverlay runtime batch.base overlay batch.ctx batch.txs with
  | .ok (_, _, next) => some next
  | .error _ => none

/-- The overlay after a sequence of batches, of which those that fail change nothing. -/
def overlayAfter (runtime : Runtime ε) (overlay : OverlayState) : List (Batch ε) → OverlayState
  | [] => overlay
  | batch :: rest => overlayAfter runtime ((batchStep runtime overlay batch).getD overlay) rest

variable {runtime : Runtime ε} {overlay next : OverlayState} {batch : Batch ε}

/-- The changes of a batch are those of the EVM which its transactions reach. -/
theorem batchDiff_eq_some {diff : EvmState}
    (succeeds : batchDiff runtime overlay batch = some diff) :
    ∃ evm, runtime.Reaches (overlay.layerOver batch.base) batch.ctx.chainId batch.txs evm ∧
      diff = runtime.finalize evm := by
  rw [batchDiff] at succeeds
  split at succeeds
  · rename_i outcomes publicValues state executed
    cases succeeds
    exact (applyBatchStateful_ok executed).1
  · cases succeeds

/-- A successful batch merges its changes and records their commitment. -/
theorem batchStep_eq_some (stepped : batchStep runtime overlay batch = some next) :
    ∃ diff, batchDiff runtime overlay batch = some diff ∧
      next = (overlay.applyEvmState diff).setCommitment
        (stateCommitment runtime.keccak256 diff) := by
  rw [batchStep] at stepped
  split at stepped
  · rename_i outcomes publicValues reached executed
    cases stepped
    rcases applyBatchWithOverlay_ok_iff.mp executed with ⟨state, batch_ok, rfl⟩
    refine ⟨state, ?_, ?_⟩
    · rw [batchDiff, batch_ok]
    · rw [(applyBatchStateful_ok batch_ok).2.2.2]
  · cases stepped

end Batches

end Zkhood
