import Zkhood.Bridge.L1Verifier
import Zkhood.Bridge.L2Provider
import Zkhood.Executor
import Zkhood.StateProvider

/-!
# The worker's execution paths

A request is executed on a snapshot of the rollup overlay, over one of two base
states: the mock state which the request carries, or a provider which the worker
fills from its RPC servers for the request's access list.

The functions are sequential. What other servers answer while a request runs is
part of the request's `Network`. Besides its errors, the verified path panics on
an account whose code is in no format of bytecode.
-/

namespace Zkhood

/-- The accounts and storage slots a batch reads. -/
structure AccountAccess where
  address : Address
  slots : List U256

/-- A batch to execute on the TEE fast path. -/
structure ExecuteBatchRequest where
  ctx : BatchContext
  txs : List TxEnv
  accessList : List AccountAccess
  mockState : Option MockRobinhoodStateProvider

/-- What the caller of a successful request is told. -/
structure ExecuteBatchResponse where
  publicValues : PublicValues
  txCount : U32
deriving DecidableEq

/-- RPC and network configuration of the verified path. -/
structure WorkerConfig where
  heliosRpc : String
  untrustedL1Rpc : String
  robinhoodRpc : String
  network : NetworkConfig

/-- The configuration of a worker on testnet, with the default URLs. -/
def WorkerConfig.testnet : WorkerConfig where
  heliosRpc := "http://127.0.0.1:8545"
  untrustedL1Rpc := "https://ethereum-sepolia.publicnode.com"
  robinhoodRpc := "https://rpc.testnet.chain.robinhood.com"
  network := .testnet

/-- Why a request failed. -/
inductive ExecError where
  | noState
  | verification (e : String)
  | execution (e : String)
deriving DecidableEq

/-- The text of an error. -/
def ExecError.display : ExecError → String
  | noState =>
      "no base state: send `access_list` with the enclave configured for verified state (prod), " ++
        "or `mock_state` (dev)"
  | verification e => "state verification failed: " ++ e
  | execution e => "batch execution failed: " ++ e

/-- The servers behind the URLs during one request. The L2 server may behave differently at
every connection; the first fetches the block, the others the accounts in their order. -/
structure Network where
  helios : String → Endpoint HeliosRpc
  l1 : String → Endpoint L1Rpc
  l2Block : String → Endpoint L2Rpc
  l2Account : ℕ → String → Endpoint L2Rpc

/-- The `Debug` rendering of the only error over a base which always answers. -/
def BatchError.debug : BatchError Infallible → String
  | execution message => "Execution(" ++ message.quote ++ ")"

variable (runtime : Runtime Infallible) (alloy : Alloy)

/-- Executes the batch of a request over its base state. -/
def run (base : DatabaseRef Infallible) (overlay : OverlayState) (ctx : BatchContext)
    (txs : List TxEnv) : Except ExecError (ExecuteBatchResponse × OverlayState) := do
  let (outcomes, publicValues, newOverlay) ←
    (applyBatchWithOverlay runtime base overlay ctx txs).mapError (.execution ·.debug)
  return ({ publicValues, txCount := BitVec.ofNat 32 outcomes.length }, newOverlay)

/-- Bases which the overlay makes the same give the same result. -/
theorem run_congr {left right : DatabaseRef Infallible} {overlay : OverlayState}
    (same : overlay.layerOver left = overlay.layerOver right) (ctx : BatchContext)
    (txs : List TxEnv) :
    run runtime left overlay ctx txs = run runtime right overlay ctx txs := by
  simp only [run, applyBatchWithOverlay, same]

/-- Executes against an explicit, unverified in-memory base state. -/
def executeBatchMock (req : ExecuteBatchRequest) (overlay : OverlayState) :
    Except ExecError (ExecuteBatchResponse × OverlayState) :=
  match req.mockState with
  | none => .error .noState
  | some base => run runtime base.databaseRef overlay req.ctx req.txs

/-- The loop over the access list: fetches its accounts in order, up to the first error. -/
def fetchAccessList (provider : VerifiedStateProvider) (l2Account : ℕ → Endpoint L2Rpc) :
    ℕ → List AccountAccess → VerifiedStateProvider × Except (Failure String) Unit
  | _, [] => (provider, .ok ())
  | index, acc :: rest =>
      match provider.fetchAccount alloy (l2Account index) acc.address acc.slots with
      | (provider, .error e) => (provider, .error e)
      | (provider, .ok ()) => fetchAccessList provider l2Account (index + 1) rest

/-- The provider which the verified path executes on. -/
def verifiedProvider (net : Network) (cfg : WorkerConfig) (accessList : List AccountAccess) :
    Except (Failure String) VerifiedStateProvider := do
  let anchor ← (verifyLatestL2Anchor alloy (net.helios cfg.heliosRpc) (net.l1 cfg.untrustedL1Rpc)
    cfg.network).mapError .report
  let block ← (fetchVerifiedStateRoot alloy (net.l2Block cfg.robinhoodRpc)
    anchor.l2BlockHash).mapError .report
  let (provider, fetched) := fetchAccessList alloy (VerifiedStateProvider.new block)
    (fun index => net.l2Account index cfg.robinhoodRpc) 0 accessList
  fetched
  return provider

/-- Builds a verified base state for the access list and executes on top of the overlay. -/
def executeBatchVerified (net : Network) (req : ExecuteBatchRequest) (overlay : OverlayState)
    (cfg : WorkerConfig) : Except (Failure ExecError) (ExecuteBatchResponse × OverlayState) := do
  let provider ← (verifiedProvider alloy net cfg req.accessList).mapError (·.map .verification)
  (run runtime provider.databaseRef overlay req.ctx req.txs).mapError .report

end Zkhood
