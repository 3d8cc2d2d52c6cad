import Zkhood.Executor
import Zkhood.StateProvider

/-!
# The SP1 guest

The guest program reads a witness, runs the batch on the witness's provider, and
commits to the ABI encoding of the public values. A batch which does not execute
makes it panic; `none` stands for a panic.
-/

namespace Zkhood

/-- The Solidity mirror of the public values. -/
structure PublicValuesStruct where
  chainId : U64
  rollupAddress : Address
  batchNumber : U64
  teeBatchNonce : U64
  oldStateCommitment : B256
  newStateCommitment : B256
  txCommitment : B256
  txCount : U32
deriving DecidableEq

/-- The ABI encoding of a struct of static fields: one padded word per field. -/
def PublicValuesStruct.abiEncode (values : PublicValuesStruct) : Bytes :=
  values.chainId.toBeBytes 32 ++ values.rollupAddress.toBeBytes 32 ++
    values.batchNumber.toBeBytes 32 ++ values.teeBatchNonce.toBeBytes 32 ++
    values.oldStateCommitment.toBeBytes 32 ++ values.newStateCommitment.toBeBytes 32 ++
    values.txCommitment.toBeBytes 32 ++ values.txCount.toBeBytes 32

/-- Everything the guest program needs to reproduce a batch's REVM execution. -/
structure BatchWitness where
  ctx : BatchContext
  oldStateCommitment : Hash
  txs : List TxEnv
  provider : MockRobinhoodStateProvider

/-- Runs the shared batch executor and returns its public values, or panics. -/
def runBatch (runtime : Runtime Infallible) (witness : BatchWitness) : Option PublicValues :=
  match applyBatch runtime witness.provider.databaseRef witness.ctx witness.oldStateCommitment
      witness.txs with
  | .ok (_outcomes, publicValues) => some publicValues
  | .error _ => none

/-- The bytes of a batch's public values. -/
def encodePublicValues (pv : PublicValues) : Bytes :=
  PublicValuesStruct.abiEncode
    { chainId := pv.chainId
      rollupAddress := pv.rollupAddress
      batchNumber := pv.batchNumber
      teeBatchNonce := pv.teeBatchNonce
      oldStateCommitment := pv.oldStateCommitment
      newStateCommitment := pv.newStateCommitment
      txCommitment := pv.txCommitment
      txCount := pv.txCount }

/-- The bytes to which the guest commits on a witness. -/
def guestMain (runtime : Runtime Infallible) (witness : BatchWitness) : Option Bytes :=
  (runBatch runtime witness).map encodePublicValues

end Zkhood
