import Zkhood.Data.HashedList
import Zkhood.Executor.Transfer
import Zkhood.Executor.TxDebug

/-!
# What the transaction commitment determines

The transaction commitment of a batch is the hash of its transactions' hashes in
order. It does not depend on the provider, the context or the outcomes, and as
long as keccak256 has no collision among the hashed bytes it determines the
list of transactions.
-/

namespace Zkhood

/-- A successful call of `applyBatchStateful`. -/
structure SuccessfulBatch (keccak256 : Bytes → Hash) (txDebug : TxEnv → Bytes) (ε : Type) where
  revm : Revm ε
  provider : DatabaseRef ε
  ctx : BatchContext
  oldStateCommitment : Hash
  txs : List TxEnv
  outcomes : List (TxOutcome revm.ExecutionResult)
  publicValues : PublicValues
  state : EvmState
  succeeds : applyBatchStateful ⟨revm, keccak256, txDebug⟩ provider ctx oldStateCommitment txs =
    .ok (outcomes, publicValues, state)

/-- Each outcome is that of the transaction at its index, executed on the EVM which the
transactions before it left. -/
structure OrderedOutcomes {ε : Type} (revm : Revm ε) (evm : revm.Evm) (txs : List TxEnv)
    (outcomes : List (TxOutcome revm.ExecutionResult)) : Prop where
  length_eq : outcomes.length = txs.length
  executed : ∀ index tx, txs[index]? = some tx → ∃ before result after,
    Trace.run revm.txStep evm (txs.take index) = some before ∧
    revm.transactOne before tx = .ok (result, after) ∧ outcomes[index]? = some ⟨result⟩

/-- keccak256 has no collision among the byte strings which two batches hash for their transaction
commitments: the renderings of their transactions and the two lists of hashes. -/
def NoTxCollision (keccak256 : Bytes → Hash) (txDebug : TxEnv → Bytes) (left right : List TxEnv) :
    Prop :=
  Set.InjOn keccak256 {bytes | bytes ∈
    HashedList.inputs keccak256 (BitVec.toBeBytes 32) txDebug left ++
      HashedList.inputs keccak256 (BitVec.toBeBytes 32) txDebug right}

section Loop

variable {ε : Type} {revm : Revm ε}

theorem OrderedOutcomes.cons {evm next : revm.Evm} {tx : TxEnv} {txs : List TxEnv}
    {result : revm.ExecutionResult} {outcomes : List (TxOutcome revm.ExecutionResult)}
    (executed : revm.transactOne evm tx = .ok (result, next))
    (later : OrderedOutcomes revm next txs outcomes) :
    OrderedOutcomes revm evm (tx :: txs) (⟨result⟩ :: outcomes) := by
  constructor
  · rw [List.length_cons, List.length_cons, later.length_eq]
  · intro index other at_index
    cases index with
    | zero =>
        cases at_index
        exact ⟨evm, result, next, rfl, executed, rfl⟩
    | succ index =>
        rw [List.getElem?_cons_succ] at at_index
        rcases later.executed index other at_index with ⟨before, response, after, ran, step, given⟩
        refine ⟨before, response, after, ?_, step, given⟩
        rw [List.take_succ_cons, Trace.run, Revm.txStep_of_ok executed]
        exact ran

/-- The loop adds the outcomes of its transactions, in order. -/
theorem transactAll_outcomes {runtime : Runtime ε} {evm final : runtime.Evm} {txs : List TxEnv}
    {outcomes results : List (TxOutcome runtime.ExecutionResult)} {txHashes hashes : List Hash}
    (ok : transactAll runtime evm outcomes txHashes txs = .ok (results, hashes, final)) :
    ∃ fresh, results = outcomes ++ fresh ∧ OrderedOutcomes runtime.toRevm evm txs fresh := by
  induction txs generalizing evm outcomes txHashes with
  | nil =>
      cases ok
      exact ⟨[], (List.append_nil _).symm, rfl, fun _ _ at_index => nomatch at_index⟩
  | cons tx rest ih =>
      simp only [transactAll] at ok
      split at ok
      · cases ok
      · rename_i result next executed
        rcases ih ok with ⟨fresh, rfl, ordered⟩
        exact ⟨⟨result⟩ :: fresh, List.append_assoc _ _ _, ordered.cons executed⟩

end Loop

theorem keccak256ConcatHashes_eq (keccak256 : Bytes → Hash) (hashes : List Hash) :
    keccak256ConcatHashes keccak256 hashes = keccak256 (hashes.flatMap (BitVec.toBeBytes 32)) := by
  rw [keccak256ConcatHashes, List.flatMap_eq_foldl]

namespace SuccessfulBatch

variable {keccak256 : Bytes → Hash} {txDebug : TxEnv → Bytes} {ε : Type}

/-- The commitment is a function of the transactions alone. -/
theorem txCommitment_eq (batch : SuccessfulBatch keccak256 txDebug ε) :
    batch.publicValues.txCommitment =
      HashedList.commit keccak256 (BitVec.toBeBytes 32) txDebug batch.txs := by
  rcases applyBatchStateful_eq_ok_iff.mp batch.succeeds with ⟨txHashes, evm, ran, -, values⟩
  rw [values, (transactAll_ok ran).2.2, List.nil_append, keccak256ConcatHashes_eq,
    List.flatMap_map]
  rfl

theorem orderedOutcomes (batch : SuccessfulBatch keccak256 txDebug ε) :
    OrderedOutcomes batch.revm (batch.revm.build batch.provider batch.ctx.chainId) batch.txs
      batch.outcomes := by
  rcases applyBatchStateful_eq_ok_iff.mp batch.succeeds with ⟨txHashes, evm, ran, -⟩
  rcases transactAll_outcomes ran with ⟨fresh, results, ordered⟩
  rw [List.nil_append] at results
  rw [results]
  exact ordered

/-- The counter wraps at `2 ^ 32`. -/
theorem toNat_txCount (batch : SuccessfulBatch keccak256 txDebug ε) :
    batch.publicValues.txCount.toNat = batch.txs.length % 2 ^ 32 := by
  rcases applyBatchStateful_eq_ok_iff.mp batch.succeeds with ⟨txHashes, evm, -, -, values⟩
  rw [values, BitVec.toNat_ofNat, batch.orderedOutcomes.length_eq]

end SuccessfulBatch

/-- The transaction commitments of two successful calls are equal exactly if the calls executed the
same list of transactions. The outcomes of a call are those of its transactions in order, and its
count is their number. -/
theorem txCommitment_binds_txs (keccak256 : Bytes → Hash) (txDebug : TxEnv → Bytes) :
    (Function.Injective txDebug →
      ∀ {ε ε' : Type} (left : SuccessfulBatch keccak256 txDebug ε)
        (right : SuccessfulBatch keccak256 txDebug ε'),
      NoTxCollision keccak256 txDebug left.txs right.txs →
      (left.publicValues.txCommitment = right.publicValues.txCommitment ↔ left.txs = right.txs)) ∧
    (∀ {ε : Type} (batch : SuccessfulBatch keccak256 txDebug ε),
      OrderedOutcomes batch.revm (batch.revm.build batch.provider batch.ctx.chainId) batch.txs
        batch.outcomes ∧
      (batch.txs.length < 2 ^ 32 → batch.publicValues.txCount.toNat = batch.txs.length)) := by
  constructor
  · intro rendering ε ε' left right noCollision
    rw [left.txCommitment_eq, right.txCommitment_eq]
    exact HashedList.commit_eq_iff (by decide : 0 < 32) (BitVec.length_toBeBytes 32)
      (fun _ _ => BitVec.toBeBytes_inj (by norm_num)) rendering noCollision
  · intro ε batch
    refine ⟨batch.orderedOutcomes, ?_⟩
    intro short
    rw [batch.toNat_txCount, Nat.mod_eq_of_lt short]

section Reordered

theorem noTxCollision_of_nodup {keccak256 : Bytes → Hash} {txDebug : TxEnv → Bytes}
    {left right : List TxEnv} (inputs : List Bytes)
    (covered : ∀ bytes, bytes ∈ HashedList.inputs keccak256 (BitVec.toBeBytes 32) txDebug left ++
      HashedList.inputs keccak256 (BitVec.toBeBytes 32) txDebug right → bytes ∈ inputs)
    (nodup : (inputs.map keccak256).Nodup) : NoTxCollision keccak256 txDebug left right := by
  intro bytes bytes_mem other other_mem collision
  exact List.inj_on_of_nodup_map nodup (covered bytes bytes_mem) (covered other other_mem) collision

theorem exists_successfulBatch {keccak256 : Bytes → Hash} {txDebug : TxEnv → Bytes} {ε : Type}
    {revm : Revm ε} {provider : DatabaseRef ε} {ctx : BatchContext} {oldStateCommitment : Hash}
    {txs : List TxEnv} (succeeds : (applyBatchStateful ⟨revm, keccak256, txDebug⟩ provider ctx
      oldStateCommitment txs).toOption.isSome) :
    ∃ batch : SuccessfulBatch keccak256 txDebug ε, batch.txs = txs := by
  rcases Option.isSome_iff_exists.mp succeeds with ⟨⟨outcomes, publicValues, state⟩, ok⟩
  exact ⟨⟨revm, provider, ctx, oldStateCommitment, txs, outcomes, publicValues, state,
    toOption_eq_some_iff.mp ok⟩, rfl⟩

/-- A transfer of 7. -/
def firstTransfer : TxEnv := transferTx 0x11 0x22 7 0

/-- A transfer of 5 between other accounts. -/
def secondTransfer : TxEnv := transferTx 0x33 0x44 5 0

/-- The byte strings which are hashed for the two transfers in either order. -/
def transferInputs : List Bytes :=
  let digests := HashedList.digests Keccak.hash (BitVec.toBeBytes 32) TxEnv.debugBytes
  [digests [firstTransfer, secondTransfer], digests [secondTransfer, firstTransfer],
    firstTransfer.debugBytes, secondTransfer.debugBytes]

/-- A base which funds the callers of both transfers. -/
def transferProvider : DatabaseRef Infallible :=
  (fundedProvider [(0x11, 100), (0x33, 100)]).databaseRef

theorem transfers_succeed :
    (applyBatchStateful ⟨transferRevm, Keccak.hash, TxEnv.debugBytes⟩ transferProvider
      testnetContext 0 [firstTransfer, secondTransfer]).toOption.isSome ∧
    (applyBatchStateful ⟨transferRevm, Keccak.hash, TxEnv.debugBytes⟩ transferProvider
      { testnetContext with batchNumber := 2 } 1 [secondTransfer, firstTransfer]).toOption.isSome ∧
    (transferInputs.map Keccak.hash).Nodup := by
  decide +kernel

/-- Two independent transfers succeed in either order, and the two orders have different
commitments. -/
theorem txCommitment_binds_transfers :
    ∃ left right : SuccessfulBatch Keccak.hash TxEnv.debugBytes Infallible,
      left.txs = [firstTransfer, secondTransfer] ∧ right.txs = [secondTransfer, firstTransfer] ∧
      left.publicValues.txCommitment ≠ right.publicValues.txCommitment ∧
      left.publicValues.txCount.toNat = 2 := by
  rcases transfers_succeed with ⟨in_order, reordered, nodup⟩
  rcases exists_successfulBatch in_order with ⟨left, left_txs⟩
  rcases exists_successfulBatch reordered with ⟨right, right_txs⟩
  rcases txCommitment_binds_txs Keccak.hash TxEnv.debugBytes with ⟨binds, outcomes⟩
  have noCollision : NoTxCollision Keccak.hash TxEnv.debugBytes left.txs right.txs := by
    apply noTxCollision_of_nodup transferInputs _ nodup
    rw [left_txs, right_txs]
    simp only [HashedList.inputs, transferInputs, List.map_cons, List.map_nil, List.cons_append,
      List.nil_append, List.mem_cons, List.not_mem_nil, or_false]
    intro bytes
    grind
  refine ⟨left, right, left_txs, right_txs, ?_, ?_⟩
  · rw [Ne, binds TxEnv.debugBytes_injective left right noCollision, left_txs, right_txs]
    simp [firstTransfer, secondTransfer, transferTx]
  · have short : left.txs.length < 2 ^ 32 := by
      rw [left_txs]
      decide
    rw [(outcomes left).2 short, left_txs]
    rfl

end Reordered

end Zkhood
