import Zkhood.Bridge.L2Provider
import Zkhood.Guest

/-!
# The guest reproduces the worker's batches

The worker executes over an overlay layered on a base provider; the guest only
takes a mock provider. `flatten` copies overlay and base into one mock provider
with the same answers, so the same executor returns the same public values on
both sides, batch after batch.
-/

namespace Zkhood

/-- The base state of a batch of the worker. -/
inductive Base where
  | mock (provider : MockRobinhoodStateProvider)
  | verified (provider : VerifiedStateProvider)

namespace Base

/-- The answers of either base. -/
def databaseRef : Base → DatabaseRef Infallible
  | mock provider => provider.databaseRef
  | verified provider => provider.databaseRef

/-- The maps of either base, as a mock provider. -/
def contents : Base → MockRobinhoodStateProvider
  | mock provider => provider
  | verified provider => ⟨provider.accounts, provider.storage, provider.code⟩

theorem databaseRef_contents (base : Base) : base.contents.databaseRef = base.databaseRef := by
  cases base <;> rfl

end Base

/-- One provider with the answers of an overlay layered over a provider. -/
def OverlayState.flatten (overlay : OverlayState) (base : MockRobinhoodStateProvider) :
    MockRobinhoodStateProvider where
  accounts := (base.accounts ∪ overlay.accounts).filter fun address _ =>
    !overlay.destroyed.contains address
  storage := (base.storage.filter fun key _ => !overlay.destroyed.contains key.1) ∪
    overlay.storage
  code := base.code ∪ overlay.code

/-- The flattened provider answers every query as the layered database does. -/
theorem OverlayState.databaseRef_flatten (overlay : OverlayState)
    (base : MockRobinhoodStateProvider) :
    (overlay.flatten base).databaseRef = overlay.layerOver base.databaseRef := by
  apply DatabaseRef.ext
  · funext address
    simp only [MockRobinhoodStateProvider.databaseRef, flatten, layerOver,
      Std.ExtTreeMap.getElem?_filter', Std.ExtTreeMap.getElem?_union]
    by_cases dead : overlay.destroyed.contains address
    · simp [dead]
    · cases overlay.accounts[address]? <;> cases base.accounts[address]? <;> simp [dead]
  · funext codeHash
    simp only [MockRobinhoodStateProvider.databaseRef, flatten, layerOver,
      Std.ExtTreeMap.getElem?_union]
    cases overlay.code[codeHash]? <;> simp
  · funext address index
    simp only [MockRobinhoodStateProvider.databaseRef, flatten, layerOver,
      Std.ExtTreeMap.getElem?_filter', Std.ExtTreeMap.getElem?_union]
    cases overlay.storage[(address, index)]? with
    | some value => simp
    | none =>
        by_cases dead : overlay.destroyed.contains address
        · simp [dead]
        · cases base.storage[(address, index)]? <;> simp [dead, Option.filter]
  · rfl

section Batch

variable (runtime : Runtime Infallible)

/-- The witness for a batch of the worker: the same batch over the flattened base. -/
def reproducingWitness (base : Base) (overlay : OverlayState) (ctx : BatchContext)
    (txs : List TxEnv) : BatchWitness where
  ctx
  oldStateCommitment := overlay.commitment
  txs
  provider := overlay.flatten base.contents

/-- The public values of a batch of the worker. -/
def teeValues (base : Base) (overlay : OverlayState) (ctx : BatchContext) (txs : List TxEnv) :
    Option PublicValues :=
  match applyBatchWithOverlay runtime base.databaseRef overlay ctx txs with
  | .ok (_, publicValues, _) => some publicValues
  | .error _ => none

/-- The guest returns what the worker returned. -/
theorem runBatch_reproducingWitness (base : Base) (overlay : OverlayState) (ctx : BatchContext)
    (txs : List TxEnv) :
    runBatch runtime (reproducingWitness base overlay ctx txs) =
      teeValues runtime base overlay ctx txs := by
  simp only [runBatch, teeValues, reproducingWitness, applyBatch, applyBatchWithOverlay,
    OverlayState.databaseRef_flatten, Base.databaseRef_contents]
  cases applyBatchStateful runtime (overlay.layerOver base.databaseRef) ctx overlay.commitment txs
    with
  | error failure => rfl
  | ok reached => rfl

end Batch

/-- A batch of the worker with its own base. -/
structure TeeBatch where
  base : Base
  ctx : BatchContext
  txs : List TxEnv

/-- The public values of successive batches, each on the overlay left by the previous one. -/
def teeRun (runtime : Runtime Infallible) (overlay : OverlayState) :
    List TeeBatch → List (Option PublicValues)
  | [] => []
  | batch :: rest =>
      match applyBatchWithOverlay runtime batch.base.databaseRef overlay batch.ctx batch.txs with
      | .ok (_, publicValues, next) => some publicValues :: teeRun runtime next rest
      | .error _ => none :: teeRun runtime overlay rest

theorem exists_witnesses_of_teeRun (runtime : Runtime Infallible) (overlay : OverlayState)
    (batches : List TeeBatch) :
    ∃ witnesses : List BatchWitness,
      witnesses.map (runBatch runtime) = teeRun runtime overlay batches := by
  induction batches generalizing overlay with
  | nil => exact ⟨[], rfl⟩
  | cons batch rest ih =>
      have reproduced := runBatch_reproducingWitness runtime batch.base overlay batch.ctx batch.txs
      rw [teeValues] at reproduced
      rw [teeRun]
      split at reproduced
      · rename_i outcomes publicValues next batch_ok
        rcases ih next with ⟨witnesses, agree⟩
        exact ⟨reproducingWitness batch.base overlay batch.ctx batch.txs :: witnesses,
          by rw [List.map_cons, reproduced, agree]⟩
      · rename_i failure batch_error
        rcases ih overlay with ⟨witnesses, agree⟩
        exact ⟨reproducingWitness batch.base overlay batch.ctx batch.txs :: witnesses,
          by rw [List.map_cons, reproduced, agree]⟩

/-- For every base and overlay there is one mock provider with the answers of the layered
database; the guest returns the worker's public values on it, commits to their encoding, and
panics exactly on the worker's errors. A run of the worker is reproduced batch by batch. -/
theorem guest_reproduces_tee (runtime : Runtime Infallible) :
    (∀ (base : Base) (overlay : OverlayState), ∃ provider : MockRobinhoodStateProvider,
      let layered := overlay.layerOver base.databaseRef
      ((∀ address, provider.databaseRef.basicRef address = layered.basicRef address) ∧
        (∀ address index,
          provider.databaseRef.storageRef address index = layered.storageRef address index) ∧
        (∀ codeHash, provider.databaseRef.codeByHashRef codeHash = layered.codeByHashRef codeHash) ∧
        ∀ number, provider.databaseRef.blockHashRef number = layered.blockHashRef number) ∧
      ∀ (ctx : BatchContext) (txs : List TxEnv),
        let witness : BatchWitness :=
          { ctx, oldStateCommitment := overlay.commitment, txs, provider }
        let batch := applyBatchWithOverlay runtime base.databaseRef overlay ctx txs
        (∀ publicValues, runBatch runtime witness = some publicValues ↔
          ∃ outcomes next, batch = .ok (outcomes, publicValues, next)) ∧
        (∀ outcomes publicValues next, batch = .ok (outcomes, publicValues, next) →
          guestMain runtime witness = some (encodePublicValues publicValues)) ∧
        (runBatch runtime witness = none ↔ ∃ error, batch = .error error)) ∧
    ∀ (overlay : OverlayState) (batches : List TeeBatch), ∃ witnesses : List BatchWitness,
      witnesses.map (runBatch runtime) = teeRun runtime overlay batches ∧
        witnesses.map (guestMain runtime) =
          (teeRun runtime overlay batches).map (Option.map encodePublicValues) := by
  constructor
  · intro base overlay
    have answers : (overlay.flatten base.contents).databaseRef =
        overlay.layerOver base.databaseRef := by
      rw [OverlayState.databaseRef_flatten, Base.databaseRef_contents]
    refine ⟨overlay.flatten base.contents, ?_, ?_⟩
    · simp only [answers, implies_true, and_self]
    · intro ctx txs witness batch
      have reproduced : runBatch runtime witness = teeValues runtime base overlay ctx txs :=
        runBatch_reproducingWitness runtime base overlay ctx txs
      rw [guestMain, reproduced, teeValues]
      cases batch_eq : applyBatchWithOverlay runtime base.databaseRef overlay ctx txs with
      | error failure => simp [batch, batch_eq]
      | ok reached => simp [batch, batch_eq, Prod.ext_iff]
  · intro overlay batches
    rcases exists_witnesses_of_teeRun runtime overlay batches with ⟨witnesses, agree⟩
    refine ⟨witnesses, agree, ?_⟩
    rw [← agree, List.map_map]
    rfl

end Zkhood
