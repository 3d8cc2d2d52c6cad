import Zkhood.Bridge.Abi

/-!
# The L1 verifier

`verifyLatestL2Anchor` asks the Helios sidecar for the latest confirmed
assertion, looks its event up at an untrusted RPC, and lets the rollup contract
recompute the assertion's hash from the event's data. The lookup scans backward
from the chain tip in windows of at most `LOG_WINDOW` blocks.
-/

namespace Zkhood

/-- The Helios sidecar's default URL. -/
def DEFAULT_HELIOS_RPC : String := "http://127.0.0.1:8545"

/-- A verified snapshot of the latest confirmed L2 state. -/
structure VerifiedL2Anchor where
  confirmedAssertionHash : B256
  l2BlockHash : B256
  l2SendRoot : B256
deriving DecidableEq

/-- Subtraction which stops at zero. -/
def saturatingSub {bits : ℕ} (left right : BitVec bits) : BitVec bits :=
  if left < right then 0 else left - right

/-- The block-range window of `eth_getLogs`. -/
def LOG_WINDOW : U64 := 45000

/-- The lower end of the window which ends at `toBlock`. -/
def windowStart (toBlock deployBlock : U64) : U64 :=
  let start := saturatingSub toBlock (LOG_WINDOW - 1)
  if start < deployBlock then deployBlock else start

theorem toNat_saturatingSub {bits : ℕ} (left right : BitVec bits) :
    (saturatingSub left right).toNat = left.toNat - right.toNat := by
  rw [saturatingSub]
  split
  · rename_i below
    rw [BitVec.lt_def] at below
    simp only [BitVec.ofNat_eq_ofNat, BitVec.toNat_ofNat, Nat.zero_mod]
    omega
  · rename_i above
    rw [BitVec.lt_def, Nat.not_lt] at above
    exact BitVec.toNat_sub_of_le above

/-- The lower end never reaches below the deploy block. -/
theorem toNat_windowStart (toBlock deployBlock : U64) :
    (windowStart toBlock deployBlock).toNat = max (toBlock.toNat - 44999) deployBlock.toNat := by
  have start := toNat_saturatingSub toBlock (LOG_WINDOW - 1)
  rw [show (LOG_WINDOW - 1).toNat = 44999 from rfl] at start
  rw [windowStart]
  split
  · rename_i below
    rw [BitVec.lt_def] at below
    omega
  · rename_i above
    rw [BitVec.lt_def] at above
    omega

/-- The step to the next window does not underflow, and stays above the deploy block. -/
theorem toNat_windowStart_sub_one {toBlock deployBlock : U64}
    (next : ¬windowStart toBlock deployBlock ≤ deployBlock) :
    (windowStart toBlock deployBlock - 1).toNat + 1 = (windowStart toBlock deployBlock).toNat ∧
      deployBlock ≤ windowStart toBlock deployBlock - 1 := by
  rw [BitVec.le_def, Nat.not_le] at next
  have one : (1 : U64).toNat = 1 := rfl
  have positive : (1 : U64) ≤ windowStart toBlock deployBlock := by
    rw [BitVec.le_def]
    omega
  rw [BitVec.le_def, BitVec.toNat_sub_of_le positive]
  omega

/-- The next window ends below this one, so the scan terminates. -/
theorem windowStart_sub_one_lt {toBlock deployBlock : U64}
    (above : ¬windowStart toBlock deployBlock ≤ deployBlock) :
    (windowStart toBlock deployBlock - 1).toNat < toBlock.toNat := by
  have start := toNat_windowStart toBlock deployBlock
  have next := (toNat_windowStart_sub_one above).1
  rw [BitVec.le_def] at above
  omega

variable (alloy : Alloy)

/-- Reads the hash of the latest confirmed assertion, as verified by Helios. -/
def callLatestConfirmed (heliosRpc : Endpoint HeliosRpc) (rollupAddress : Address) :
    Except String B256 := do
  let provider ← heliosRpc
  let result ← (provider.call rollupAddress .latestConfirmed).mapError
    ("Helios-verified latestConfirmed() call failed: " ++ ·)
  (alloy.decodeReturns result).mapError
    ("failed to decode latestConfirmed() return value: " ++ ·)

/-- Lets the contract hash an assertion, as verified by Helios. -/
def callComputeAssertionHash (heliosRpc : Endpoint HeliosRpc) (rollupAddress : Address)
    (prevAssertionHash : B256) (state : AssertionState) (inboxAcc : B256) :
    Except String B256 := do
  let provider ← heliosRpc
  let result ← (provider.call rollupAddress
      (.computeAssertionHash prevAssertionHash state inboxAcc)).mapError
    ("Helios-verified computeAssertionHash() call failed: " ++ ·)
  (alloy.decodeReturns result).mapError
    ("failed to decode computeAssertionHash() return value: " ++ ·)

/-- The error of a scan which reached the deploy block. -/
def noLogFound (assertionHash : B256) (deployBlock latest : U64) : String :=
  "no AssertionCreated log found for assertion " ++ lowerHex 32 assertionHash ++
    " between blocks " ++ toString deployBlock.toNat ++ " and " ++ toString latest.toNat

/-- The loop over the windows, from the one which ends at `toBlock`. -/
def scanWindows (provider : L1Rpc) (rollupAddress : Address) (assertionHash : B256)
    (deployBlock latest toBlock : U64) : Except String (B256 × AssertionState × B256) :=
  let fromBlock := windowStart toBlock deployBlock
  match provider.getLogs { address := rollupAddress, topic1 := assertionHash, fromBlock, toBlock }
    with
  | .error e => .error e
  | .ok (log :: _) =>
      match alloy.decodeLog log with
      | .error e => .error ("failed to decode AssertionCreated log: " ++ e)
      | .ok decoded =>
          .ok (decoded.parentAssertionHash, decoded.assertion.afterState,
            decoded.afterInboxBatchAcc)
  | .ok [] =>
      if windowStart toBlock deployBlock ≤ deployBlock then
        .error (noLogFound assertionHash deployBlock latest)
      else scanWindows provider rollupAddress assertionHash deployBlock latest (fromBlock - 1)
termination_by toBlock.toNat
decreasing_by exact windowStart_sub_one_lt ‹_›

/-- Looks up the event of an assertion at the untrusted RPC. -/
def fetchAssertionCreated (untrustedL1Rpc : Endpoint L1Rpc) (rollupAddress : Address)
    (assertionHash : B256) (deployBlock : U64) :
    Except String (B256 × AssertionState × B256) := do
  let provider ← untrustedL1Rpc
  let latest ← provider.getBlockNumber
  scanWindows alloy provider rollupAddress assertionHash deployBlock latest latest

/-- Anchors the L2 state: the event's data has to hash to the confirmed assertion. -/
def verifyLatestL2Anchor (heliosRpc : Endpoint HeliosRpc) (untrustedL1Rpc : Endpoint L1Rpc)
    (network : NetworkConfig) : Except String VerifiedL2Anchor := do
  let rollupAddress := network.rollupAddress
  let confirmedAssertionHash ← callLatestConfirmed alloy heliosRpc rollupAddress
  let (parentAssertionHash, afterState, inboxAcc) ←
    fetchAssertionCreated alloy untrustedL1Rpc rollupAddress confirmedAssertionHash
      network.rollupDeployBlock
  let recomputedHash ←
    callComputeAssertionHash alloy heliosRpc rollupAddress parentAssertionHash afterState inboxAcc
  ensure (recomputedHash = confirmedAssertionHash)
    ("assertion self-verification failed: contract computed " ++ lowerHex 32 recomputedHash ++
      ", expected " ++ lowerHex 32 confirmedAssertionHash ++
      " (untrusted event data was wrong or malicious)")
  return {
    confirmedAssertionHash
    l2BlockHash := afterState.globalState.l2BlockHash
    l2SendRoot := afterState.globalState.bytes32Vals.2 }

variable {alloy}

/-- An anchor was reached with event data which the contract confirmed. -/
theorem verifyLatestL2Anchor_ok {heliosRpc : Endpoint HeliosRpc} {untrustedL1Rpc : Endpoint L1Rpc}
    {network : NetworkConfig} {anchor : VerifiedL2Anchor}
    (ok : verifyLatestL2Anchor alloy heliosRpc untrustedL1Rpc network = .ok anchor) :
    ∃ parentAssertionHash afterState inboxAcc,
      callLatestConfirmed alloy heliosRpc network.rollupAddress =
        .ok anchor.confirmedAssertionHash ∧
      callComputeAssertionHash alloy heliosRpc network.rollupAddress parentAssertionHash afterState
        inboxAcc = .ok anchor.confirmedAssertionHash ∧
      anchor.l2BlockHash = afterState.globalState.l2BlockHash := by
  simp only [verifyLatestL2Anchor, bind_eq_ok_iff, ensure_eq_ok_iff] at ok
  rcases ok with ⟨confirmed, latest, ⟨parent, afterState, inboxAcc⟩, -, recomputed, computed,
    ⟨⟩, matching, result⟩
  cases result
  exact ⟨parent, afterState, inboxAcc, latest, matching ▸ computed, rfl⟩

end Zkhood
