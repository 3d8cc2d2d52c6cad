import Zkhood.Executor.Chain
import Zkhood.Executor.TxCommitment
import Zkhood.Guest.Reproduction
import Zkhood.Guest.Settlement

/-!
# What a chain of settled outputs says

The worker runs batch after batch; the guest proves each of them on a witness of
its own, and commits to the encoding of its public values. The outputs of a run
form a chain of commitments, and as long as no hashes collide they determine the
batches which were executed, and with them the rollup state.

This relies on the witnesses being those of one run. The guest takes the old
commitment from its witness and compares it with nothing, so outputs can form a
chain without the state of one batch being that which the next one starts from.
-/

namespace Zkhood

/-- Public values each of which starts at the commitment at which the one before it ends. -/
def Linked (first : Hash) : List PublicValues → Hash → Prop
  | [], last => first = last
  | publicValues :: rest, last =>
      publicValues.oldStateCommitment = first ∧ Linked publicValues.newStateCommitment rest last

/-- The same batch as the executor sees it. -/
def TeeBatch.toBatch (batch : TeeBatch) : Batch Infallible where
  base := batch.base.databaseRef
  ctx := batch.ctx
  txs := batch.txs

/-- A batch which was executed, and the changes it made. -/
structure ExecutedBatch where
  ctx : BatchContext
  txs : List TxEnv
  diff : EvmState

section Run

variable (runtime : Runtime Infallible)

/-- The successful batches of a run of the worker. -/
def executedBatches (overlay : OverlayState) : List TeeBatch → List ExecutedBatch
  | [] => []
  | batch :: rest =>
      match batchDiff runtime overlay batch.toBatch with
      | some diff => ⟨batch.ctx, batch.txs, diff⟩ ::
          executedBatches ((overlay.applyEvmState diff).setCommitment
            (stateCommitment runtime.keccak256 diff)) rest
      | none => executedBatches overlay rest

/-- The bytes to which the guest commits on the witnesses of a run, one after another. -/
def settledOutputs (overlay : OverlayState) : List TeeBatch → List Bytes
  | [] => []
  | batch :: rest =>
      let output := guestMain runtime
        (reproducingWitness batch.base overlay batch.ctx batch.txs)
      match applyBatchWithOverlay runtime batch.base.databaseRef overlay batch.ctx batch.txs with
      | .ok (_, _, next) => output.toList ++ settledOutputs next rest
      | .error _ => output.toList ++ settledOutputs overlay rest

/-- The public values of an executed batch, from a given commitment. -/
def ExecutedBatch.publicValues (batch : ExecutedBatch) (oldStateCommitment : Hash) :
    PublicValues where
  chainId := batch.ctx.chainId
  rollupAddress := batch.ctx.rollupAddress
  batchNumber := batch.ctx.batchNumber
  teeBatchNonce := batch.ctx.teeBatchNonce
  oldStateCommitment
  newStateCommitment := stateCommitment runtime.keccak256 batch.diff
  txCommitment :=
    HashedList.commit runtime.keccak256 (BitVec.toBeBytes 32) runtime.txDebug batch.txs
  txCount := BitVec.ofNat 32 batch.txs.length

/-- The public values of successive batches. -/
def chainedValues (first : Hash) : List ExecutedBatch → List PublicValues
  | [] => []
  | batch :: rest =>
      batch.publicValues runtime first ::
        chainedValues (stateCommitment runtime.keccak256 batch.diff) rest

variable {runtime}

/-- A batch succeeds with its diff's public values, or it fails. -/
theorem applyBatchWithOverlay_eq {base : DatabaseRef Infallible} {overlay : OverlayState}
    {ctx : BatchContext} {txs : List TxEnv} :
    match batchDiff runtime overlay ⟨base, ctx, txs⟩ with
    | some diff => ∃ outcomes, applyBatchWithOverlay runtime base overlay ctx txs =
        .ok (outcomes, ExecutedBatch.publicValues runtime ⟨ctx, txs, diff⟩ overlay.commitment,
          (overlay.applyEvmState diff).setCommitment (stateCommitment runtime.keccak256 diff))
    | none => ∃ failure, applyBatchWithOverlay runtime base overlay ctx txs = .error failure := by
  rw [batchDiff, applyBatchWithOverlay]
  cases executed :
      applyBatchStateful runtime (overlay.layerOver base) ctx overlay.commitment txs with
  | error failure => exact ⟨failure, rfl⟩
  | ok reached =>
      rcases reached with ⟨outcomes, publicValues, diff⟩
      rcases applyBatchStateful_eq_ok_iff.mp executed with ⟨txHashes, evm, ran, rfl, rfl⟩
      rcases transactAll_ok ran with ⟨-, counted, hashed⟩
      refine ⟨outcomes, ?_⟩
      have count : outcomes.length = txs.length := by simpa using counted
      have commitment : keccak256ConcatHashes runtime.keccak256 txHashes =
          HashedList.commit runtime.keccak256 (BitVec.toBeBytes 32) runtime.txDebug txs := by
        rw [hashed, List.nil_append, keccak256ConcatHashes_eq, List.flatMap_map]
        rfl
      simp only [bind, Except.bind, pure, Except.pure, ExecutedBatch.publicValues, count,
        commitment]

/-- The outputs of a run are the encodings of the public values of its successful batches. -/
theorem settledOutputs_eq (overlay : OverlayState) (batches : List TeeBatch) :
    settledOutputs runtime overlay batches =
      (chainedValues runtime overlay.commitment
        (executedBatches runtime overlay batches)).map encodePublicValues := by
  induction batches generalizing overlay with
  | nil => rfl
  | cons batch rest ih =>
      have applied := @applyBatchWithOverlay_eq runtime batch.base.databaseRef overlay batch.ctx
        batch.txs
      rw [settledOutputs, executedBatches, guestMain, runBatch_reproducingWitness, teeValues]
      change match batchDiff runtime overlay batch.toBatch with | some diff => _ | none => _
        at applied
      cases executed : batchDiff runtime overlay batch.toBatch with
      | none =>
          rw [executed] at applied
          rcases applied with ⟨failure, failed⟩
          simp only [failed, ih, Option.map_none, Option.toList_none, List.nil_append]
      | some diff =>
          rw [executed] at applied
          rcases applied with ⟨outcomes, succeeded⟩
          simp only [succeeded, ih, Option.map_some, Option.toList_some, List.singleton_append,
            chainedValues, List.map_cons, OverlayState.commitment_setCommitment]

/-- Persist the changes of an executed batch. -/
def mergeExecuted (runtime : Runtime Infallible) (overlay : OverlayState) (batch : ExecutedBatch) :
    OverlayState :=
  (overlay.applyEvmState batch.diff).setCommitment (stateCommitment runtime.keccak256 batch.diff)

/-- The overlay after a run is that of its executed batches. -/
theorem overlayAfter_eq (overlay : OverlayState) (batches : List TeeBatch) :
    overlayAfter runtime overlay (batches.map TeeBatch.toBatch) =
      (executedBatches runtime overlay batches).foldl (mergeExecuted runtime) overlay := by
  induction batches generalizing overlay with
  | nil => rfl
  | cons batch rest ih =>
      have applied := @applyBatchWithOverlay_eq runtime batch.base.databaseRef overlay batch.ctx
        batch.txs
      rw [List.map_cons, overlayAfter, executedBatches, batchStep]
      change match batchDiff runtime overlay batch.toBatch with | some diff => _ | none => _
        at applied
      cases executed : batchDiff runtime overlay batch.toBatch with
      | none =>
          rw [executed] at applied
          rcases applied with ⟨failure, failed⟩
          simp only [TeeBatch.toBatch, failed, Option.getD_none]
          exact ih overlay
      | some diff =>
          rw [executed] at applied
          rcases applied with ⟨outcomes, succeeded⟩
          simp only [TeeBatch.toBatch, succeeded, Option.getD_some, List.foldl_cons]
          exact ih _

/-- The public values of executed batches are linked. -/
theorem linked_chainedValues (overlay : OverlayState) (batches : List ExecutedBatch) :
    Linked overlay.commitment (chainedValues runtime overlay.commitment batches)
      (batches.foldl (mergeExecuted runtime) overlay).commitment := by
  induction batches generalizing overlay with
  | nil => rfl
  | cons batch rest ih => exact ⟨rfl, ih (mergeExecuted runtime overlay batch)⟩

theorem view_foldl_mergeExecuted (overlay : OverlayState) (batches : List ExecutedBatch)
    (address : Address) :
    (batches.foldl (mergeExecuted runtime) overlay).view address =
      (batches.map ExecutedBatch.diff).foldl (fun view diff => diff.updateView address view)
        (overlay.view address) := by
  induction batches generalizing overlay with
  | nil => rfl
  | cons batch rest ih =>
      rw [List.foldl_cons, ih, mergeExecuted, OverlayState.view_setCommitment,
        OverlayState.view_applyEvmState]
      rfl

end Run

section Binding

variable {runtime : Runtime Infallible}

/-- Two batches with the same context and transactions, and changes with the same commitment. -/
structure SameBatch (keccak256 : Bytes → Hash) (left right : ExecutedBatch) : Prop where
  ctx : left.ctx = right.ctx
  txs : left.txs = right.txs
  commitment : stateCommitment keccak256 left.diff = stateCommitment keccak256 right.diff

/-- keccak256 has no collision among what is hashed for the transaction commitments of some
batches. -/
def NoHistoryCollision (runtime : Runtime Infallible) (batches : List ExecutedBatch) : Prop :=
  Set.InjOn runtime.keccak256 {bytes | ∃ batch ∈ batches,
    bytes ∈ HashedList.inputs runtime.keccak256 (BitVec.toBeBytes 32) runtime.txDebug batch.txs}

theorem NoHistoryCollision.of_subset {some all : List ExecutedBatch}
    (noCollision : NoHistoryCollision runtime all) (subset : some ⊆ all) :
    NoHistoryCollision runtime some := by
  apply noCollision.mono
  rintro bytes ⟨batch, batch_mem, hashed⟩
  exact ⟨batch, subset batch_mem, hashed⟩

/-- Without a collision, public values determine the batch and its commitment. -/
theorem publicValues_eq_iff (rendering : Function.Injective runtime.txDebug)
    {left right : ExecutedBatch} (noCollision : NoHistoryCollision runtime [left, right])
    (first : Hash) :
    left.publicValues runtime first = right.publicValues runtime first ↔
      SameBatch runtime.keccak256 left right := by
  have txs : HashedList.commit runtime.keccak256 (BitVec.toBeBytes 32) runtime.txDebug left.txs =
      HashedList.commit runtime.keccak256 (BitVec.toBeBytes 32) runtime.txDebug right.txs ↔
        left.txs = right.txs := by
    refine HashedList.commit_eq_iff (by decide : 0 < 32) (BitVec.length_toBeBytes 32)
      (fun _ _ => BitVec.toBeBytes_inj (by norm_num)) rendering (noCollision.mono ?_)
    intro bytes bytes_mem
    rcases List.mem_append.mp bytes_mem with in_left | in_right
    · exact ⟨left, by simp, in_left⟩
    · exact ⟨right, by simp, in_right⟩
  constructor
  · intro same
    simp only [ExecutedBatch.publicValues, PublicValues.mk.injEq] at same
    rcases same with ⟨chainId, rollupAddress, batchNumber, teeBatchNonce, -, commitment, hashes, -⟩
    refine ⟨?_, txs.mp hashes, commitment⟩
    calc left.ctx = ⟨left.ctx.chainId, left.ctx.rollupAddress, left.ctx.batchNumber,
          left.ctx.teeBatchNonce⟩ := rfl
      _ = right.ctx := by rw [chainId, rollupAddress, batchNumber, teeBatchNonce]
  · rintro ⟨ctx, same_txs, commitment⟩
    simp only [ExecutedBatch.publicValues, ctx, same_txs, commitment]

/-- Without a collision, linked public values determine the batches in order. -/
theorem chainedValues_eq_iff (rendering : Function.Injective runtime.txDebug)
    {left right : List ExecutedBatch} (noCollision : NoHistoryCollision runtime (left ++ right))
    (first : Hash) :
    chainedValues runtime first left = chainedValues runtime first right ↔
      List.Forall₂ (SameBatch runtime.keccak256) left right := by
  induction left generalizing right first with
  | nil => cases right <;> simp [chainedValues]
  | cons batch rest ih =>
      cases right with
      | nil => simp [chainedValues]
      | cons other others =>
          have heads : NoHistoryCollision runtime [batch, other] :=
            noCollision.of_subset (by simp)
          have tails : NoHistoryCollision runtime (rest ++ others) := by
            apply noCollision.of_subset
            intro later
            simp only [List.mem_append, List.mem_cons]
            tauto
          rw [chainedValues, chainedValues, List.cons.injEq, publicValues_eq_iff rendering heads,
            List.forall₂_cons]
          refine and_congr_right fun same => ?_
          rw [same.commitment]
          exact ih tails _

/-- The outputs of a run are the encodings of public values which are linked from the commitment of
the fresh overlay to that of the last one. Two runs have the same outputs exactly if they executed
the same batches with the same commitments, and then, if different changes have different
commitments, they end in the same rollup state. -/
theorem settledOutputs_bind_history (runtime : Runtime Infallible)
    (rendering : Function.Injective runtime.txDebug) :
    let executed := executedBatches runtime OverlayState.new
    let final := fun batches : List TeeBatch =>
      overlayAfter runtime OverlayState.new (batches.map TeeBatch.toBatch)
    (∀ batches, ∃ values,
      settledOutputs runtime OverlayState.new batches = values.map encodePublicValues ∧
        Linked 0 values (final batches).commitment) ∧
    ∀ left right, NoHistoryCollision runtime (executed left ++ executed right) →
      (settledOutputs runtime OverlayState.new left =
          settledOutputs runtime OverlayState.new right ↔
        List.Forall₂ (SameBatch runtime.keccak256) (executed left) (executed right)) ∧
      (Separated runtime.keccak256
          ((executed left).map ExecutedBatch.diff ++ (executed right).map ExecutedBatch.diff) →
        settledOutputs runtime OverlayState.new left =
          settledOutputs runtime OverlayState.new right →
        SameRollupState (final left) (final right)) := by
  intro executed final
  constructor
  · intro batches
    refine ⟨_, settledOutputs_eq _ _, ?_⟩
    simp only [final, overlayAfter_eq]
    exact linked_chainedValues OverlayState.new _
  · intro left right noCollision
    have outputs : settledOutputs runtime OverlayState.new left =
        settledOutputs runtime OverlayState.new right ↔
          List.Forall₂ (SameBatch runtime.keccak256) (executed left) (executed right) := by
      rw [settledOutputs_eq, settledOutputs_eq,
        (List.map_injective_iff.mpr encodePublicValues_injective).eq_iff,
        chainedValues_eq_iff rendering noCollision]
    refine ⟨outputs, ?_⟩
    intro separated same
    have commitments : List.Forall₂ Eq
        (((executed left).map ExecutedBatch.diff).map (stateCommitment runtime.keccak256))
        (((executed right).map ExecutedBatch.diff).map (stateCommitment runtime.keccak256)) := by
      simp only [List.forall₂_map_left_iff, List.forall₂_map_right_iff]
      exact (outputs.mp same).imp fun _ _ agree => agree.commitment
    rw [List.forall₂_eq_eq_eq] at commitments
    have diffs : List.Forall₂ EvmState.Same ((executed left).map ExecutedBatch.diff)
        ((executed right).map ExecutedBatch.diff) := by
      exact forall₂_same_of_commitments_eq (fun diff diff_mem other other_mem =>
        separated diff (List.mem_append_left _ diff_mem) other
          (List.mem_append_right _ other_mem)) commitments
    rw [sameRollupState_iff]
    intro address
    simp only [final, overlayAfter_eq, view_foldl_mergeExecuted]
    exact foldl_updateView_eq diffs address _

end Binding

section Witness

theorem noHistoryCollision_of_nodup {runtime : Runtime Infallible} {batches : List ExecutedBatch}
    (lists : List (List TxEnv)) (known : ∀ batch ∈ batches, batch.txs ∈ lists)
    (nodup : ((lists.flatMap (HashedList.inputs runtime.keccak256 (BitVec.toBeBytes 32)
      runtime.txDebug)).map runtime.keccak256).Nodup) : NoHistoryCollision runtime batches := by
  rintro bytes ⟨batch, batch_mem, hashed⟩ other ⟨batch', batch'_mem, hashed'⟩ collision
  exact List.inj_on_of_nodup_map nodup (List.mem_flatMap.mpr ⟨_, known batch batch_mem, hashed⟩)
    (List.mem_flatMap.mpr ⟨_, known batch' batch'_mem, hashed'⟩) collision

/-- REVM on plain transfers, with the real hash and rendering. -/
abbrev debugRuntime : Runtime Infallible :=
  { transferRevm with keccak256 := Keccak.hash, txDebug := TxEnv.debugBytes }

/-- A batch of one transfer between funded accounts. -/
def transferTeeBatch (tx : TxEnv) : TeeBatch where
  base := .mock (fundedProvider [(0x11, 100), (0x33, 100)])
  ctx := testnetContext
  txs := [tx]

theorem executedBatches_transfers :
    ((executedBatches debugRuntime OverlayState.new
      [transferTeeBatch firstTransfer, transferTeeBatch secondTransfer]).map ExecutedBatch.txs =
        [[firstTransfer], [secondTransfer]]) ∧
    ((executedBatches debugRuntime OverlayState.new
      [transferTeeBatch secondTransfer, transferTeeBatch firstTransfer]).map ExecutedBatch.txs =
        [[secondTransfer], [firstTransfer]]) ∧
    (([[firstTransfer], [secondTransfer]].flatMap
      (HashedList.inputs debugRuntime.keccak256 (BitVec.toBeBytes 32) debugRuntime.txDebug)).map
        debugRuntime.keccak256).Nodup := by
  decide +kernel

/-- Two transfers are settled as two batches, in either order, with different outputs. -/
theorem settledOutputs_ne_of_reordered :
    settledOutputs debugRuntime OverlayState.new
        [transferTeeBatch firstTransfer, transferTeeBatch secondTransfer] ≠
      settledOutputs debugRuntime OverlayState.new
        [transferTeeBatch secondTransfer, transferTeeBatch firstTransfer] := by
  rcases executedBatches_transfers with ⟨in_order, reordered, nodup⟩
  have noCollision : NoHistoryCollision debugRuntime
      (executedBatches debugRuntime OverlayState.new
          [transferTeeBatch firstTransfer, transferTeeBatch secondTransfer] ++
        executedBatches debugRuntime OverlayState.new
          [transferTeeBatch secondTransfer, transferTeeBatch firstTransfer]) := by
    refine noHistoryCollision_of_nodup [[firstTransfer], [secondTransfer]] ?_ nodup
    intro batch batch_mem
    have txs_mem := List.mem_map_of_mem (f := ExecutedBatch.txs) batch_mem
    rw [List.map_append, in_order, reordered] at txs_mem
    simp only [List.mem_append, List.mem_cons, List.not_mem_nil, or_false] at txs_mem ⊢
    rcases txs_mem with in_left | in_right
    · exact in_left
    · exact in_right.symm
  rw [Ne, ((settledOutputs_bind_history debugRuntime TxEnv.debugBytes_injective).2 _ _
    noCollision).1]
  intro same
  have txs := List.forall₂_map_left_iff.mpr (List.forall₂_map_right_iff.mpr
    (same.imp fun _ _ agree => agree.txs))
  rw [List.forall₂_eq_eq_eq, in_order, reordered] at txs
  revert txs
  decide

end Witness

section Relabelled

variable (runtime : Runtime Infallible)

/-- The old commitment of a witness reaches the public values, and nothing else. -/
theorem runBatch_relabel (witness : BatchWitness) (oldStateCommitment : Hash) :
    runBatch runtime { witness with oldStateCommitment } =
      (runBatch runtime witness).map fun publicValues =>
        { publicValues with oldStateCommitment } := by
  simp only [runBatch, applyBatch, applyBatchStateful]
  cases transactAll runtime (runtime.build witness.provider.databaseRef witness.ctx.chainId) [] []
      witness.txs with
  | error failure => rfl
  | ok reached => rfl

/-- Any batches which execute, each over a state of its own, have witnesses which differ from
theirs only in the old commitment and on which the guest's outputs form a chain from any
commitment. -/
theorem unrelated_batches_link (witnesses : List BatchWitness)
    (execute : ∀ witness ∈ witnesses, (runBatch runtime witness).isSome) (first : Hash) :
    ∃ relabelled values last,
      List.Forall₂ (fun witness other : BatchWitness => other =
        { witness with oldStateCommitment := other.oldStateCommitment }) witnesses relabelled ∧
      List.Forall₂ (fun witness publicValues => runBatch runtime witness = some publicValues)
        relabelled values ∧
      relabelled.map (guestMain runtime) = values.map (some ∘ encodePublicValues) ∧
      Linked first values last := by
  induction witnesses generalizing first with
  | nil => exact ⟨[], [], first, .nil, .nil, rfl, rfl⟩
  | cons witness rest ih =>
      rw [List.forall_mem_cons] at execute
      rcases Option.isSome_iff_exists.mp execute.1 with ⟨publicValues, executed⟩
      rcases ih execute.2 publicValues.newStateCommitment with
        ⟨relabelled, values, last, same, executions, outputs, linked⟩
      have relabel : runBatch runtime { witness with oldStateCommitment := first } =
          some { publicValues with oldStateCommitment := first } := by
        rw [runBatch_relabel, executed]
        rfl
      refine ⟨{ witness with oldStateCommitment := first } :: relabelled,
        { publicValues with oldStateCommitment := first } :: values, last, .cons rfl same,
        .cons relabel executions, ?_, rfl, linked⟩
      rw [List.map_cons, List.map_cons, outputs, guestMain, relabel]
      rfl

/-- Two ways to spend the same 100. -/
def spendTwice : List BatchWitness :=
  [(0x22 : Address), 0x33].map fun target =>
    { ctx := testnetContext
      oldStateCommitment := 0
      txs := [transferTx 0x11 target 100 0]
      provider := fundedProvider [(0x11, 100)] }

/-- Both ways are settled in one chain. -/
theorem unrelated_batches_link_spendTwice :
    ∃ relabelled values last,
      List.Forall₂ (fun witness other : BatchWitness => other =
        { witness with oldStateCommitment := other.oldStateCommitment }) spendTwice relabelled ∧
      relabelled.map (guestMain (transferRuntime Keccak.hash)) =
        values.map (some ∘ encodePublicValues) ∧
      values.length = 2 ∧ Linked 0 values last := by
  have execute : ∀ witness ∈ spendTwice,
      (runBatch (transferRuntime Keccak.hash) witness).isSome := by
    decide +kernel
  rcases unrelated_batches_link (transferRuntime Keccak.hash) spendTwice execute 0 with
    ⟨relabelled, values, last, same, executions, outputs, linked⟩
  refine ⟨relabelled, values, last, same, outputs, ?_, linked⟩
  rw [← executions.length_eq, ← same.length_eq]
  rfl

end Relabelled

end Zkhood
