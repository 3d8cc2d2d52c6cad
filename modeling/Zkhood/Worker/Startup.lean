import Zkhood.Bridge.LogScan
import Zkhood.Data.SnapshotSimulation
import Zkhood.Worker.Batches

/-!
# Starting the worker

The worker reads its settings from the environment. With `ROBINHOOD_RPC_URL` it
verifies the base state of requests, and the other variables only replace the
defaults of the servers; without it, it serves mock requests alone.

The default L1 server is one of Sepolia whatever the network is. On mainnet it
has no event of the rollup, so a worker which leaves the default in place serves
mock requests alone, too.
-/

namespace Zkhood

open SnapshotCell

section Environment

/-- The environment variables which are set, to valid Unicode. -/
abbrev Env := String → Option String

/-- The digits after an optional plus sign. -/
def dropPlus : List Char → List Char
  | '+' :: rest => rest
  | chars => chars

/-- Decimal digits of a 16-bit number, after an optional plus sign. -/
def parseU16 (text : String) : Option (BitVec 16) :=
  let digits := dropPlus text.toList
  if digits ≠ [] ∧ digits.all Char.isDigit ∧ Nat.ofDigitChars 10 digits 0 < 2 ^ 16 then
    some (BitVec.ofNat 16 (Nat.ofDigitChars 10 digits 0))
  else none

/-- The server of the enclave's attestation. -/
def DEFAULT_ATTESTATION_ENDPOINT : String := "http://127.0.0.1:1300/attestation/raw"

/-- The L1 server of a worker which is told none. -/
def defaultL1Rpc : String := "https://ethereum-sepolia.publicnode.com"

/-- What the worker is started with. -/
structure Settings where
  port : BitVec 16
  attestationEndpoint : String
  workerConfig : Option WorkerConfig

/-- The settings of an environment, with defaults for what is not set. -/
def Settings.fromEnv (env : Env) : Settings where
  port := ((env "PORT").bind parseU16).getD 4000
  attestationEndpoint := (env "ATTESTATION_ENDPOINT").getD DEFAULT_ATTESTATION_ENDPOINT
  workerConfig := (env "ROBINHOOD_RPC_URL").map fun robinhoodRpc =>
    { heliosRpc := (env "HELIOS_RPC").getD DEFAULT_HELIOS_RPC
      untrustedL1Rpc := (env "UNTRUSTED_L1_RPC").getD defaultL1Rpc
      robinhoodRpc
      network := if env "ROBINHOOD_NETWORK" = some "mainnet" then .mainnet else .testnet }

end Environment

section Refusals

/-- The server has no log of a contract. -/
def L1Rpc.HasNoLogs (l1 : L1Rpc) (address : Address) : Prop :=
  ∀ filter logs, filter.address = address → l1.getLogs filter = .ok logs → logs = []

/-- A worker with this environment has nothing to verify with: it has no L2 server, or the L1
server, left at its default on mainnet, has no event of the rollup. -/
def CannotVerify (env : Env) (net : Network) : Prop :=
  env "ROBINHOOD_RPC_URL" = none ∨
    env "ROBINHOOD_NETWORK" = some "mainnet" ∧ env "UNTRUSTED_L1_RPC" = none ∧
      ∀ l1, net.l1 defaultL1Rpc = .ok l1 → l1.HasNoLogs NetworkConfig.mainnet.rollupAddress

variable (alloy : Alloy)

theorem scanWindows_of_hasNoLogs {l1 : L1Rpc} {rollupAddress : Address}
    (empty : l1.HasNoLogs rollupAddress) (assertionHash : B256) (deployBlock latest : U64) :
    ∃ failure, scanWindows alloy l1 rollupAddress assertionHash deployBlock latest latest =
      .error failure := by
  rcases scanFilters_eq_concat alloy with ⟨higher, last, split, -, report⟩
  rw [report]
  have last_mem : last ∈ scanFilters l1 rollupAddress assertionHash deployBlock latest := by
    rw [split]
    exact List.mem_append_right higher (List.mem_singleton_self last)
  cases answer : l1.getLogs last with
  | error failure => exact ⟨failure, rfl⟩
  | ok logs =>
      rw [empty last logs (scanFilters_asks last last_mem).1 answer]
      exact ⟨_, rfl⟩

/-- A server without events does not lead to an anchor, whatever Helios answers. -/
theorem verifyLatestL2Anchor_of_hasNoLogs (heliosRpc : Endpoint HeliosRpc) {l1Rpc : Endpoint L1Rpc}
    {network : NetworkConfig}
    (empty : ∀ l1, l1Rpc = .ok l1 → l1.HasNoLogs network.rollupAddress) :
    ∃ failure, verifyLatestL2Anchor alloy heliosRpc l1Rpc network = .error failure := by
  cases verified : verifyLatestL2Anchor alloy heliosRpc l1Rpc network with
  | error failure => exact ⟨failure, rfl⟩
  | ok anchor =>
      simp only [verifyLatestL2Anchor, bind_eq_ok_iff] at verified
      rcases verified with ⟨confirmed, -, proposal, fetched, -⟩
      simp only [fetchAssertionCreated, bind_eq_ok_iff] at fetched
      rcases fetched with ⟨l1, connected, latest, -, scanned⟩
      rcases scanWindows_of_hasNoLogs alloy (empty l1 connected) confirmed
        network.rollupDeployBlock latest with ⟨failure, failed⟩
      cases failed.symm.trans scanned

variable {ι : Type} (runtime : Runtime Infallible) {requests : Requests ι} {env : Env}

/-- Such a worker refuses a request without a mock state on every overlay. -/
theorem work_of_cannotVerify
    (started : requests.workerConfig = (Settings.fromEnv env).workerConfig) {request : ι}
    (cannot : CannotVerify env (requests.net request))
    (unmocked : (requests.request request).mockState = none) :
    ∃ e, ∀ overlay, requests.work runtime alloy request overlay =
      .error (.report (if env "ROBINHOOD_RPC_URL" = none then .noState else .verification e)) := by
  cases l2 : env "ROBINHOOD_RPC_URL" with
  | none =>
      refine ⟨"", ?_⟩
      intro overlay
      simp only [Requests.work, dispatch_eq, baseState, started, Settings.fromEnv, l2, unmocked,
        Option.map_none, if_true]
      rfl
  | some robinhoodRpc =>
      rcases cannot with absent | ⟨mainnet, default, empty⟩
      · cases absent.symm.trans l2
      · rcases verifyLatestL2Anchor_of_hasNoLogs alloy ((requests.net request).helios
          ((env "HELIOS_RPC").getD DEFAULT_HELIOS_RPC)) empty with ⟨failure, unanchored⟩
        refine ⟨failure, ?_⟩
        intro overlay
        simp only [Requests.work, dispatch_eq, baseState, started, Settings.fromEnv, l2, unmocked,
          Option.map_some, mainnet, default, if_true, Option.getD_none, verifiedProvider,
          unanchored]
        rfl

end Refusals

variable {ι : Type} [DecidableEq ι] {runtime : Runtime Infallible} {alloy : Alloy}

/-- A worker which was started without an L2 server, or on mainnet with the default L1 server,
serves mock requests alone: in every interleaving from the fresh overlay the other requests can
only be answered with an error, and without their steps it is the same run. -/
theorem mock_requests_alone (env : Env) (requests : Requests ι)
    (started : requests.workerConfig = (Settings.fromEnv env).workerConfig)
    (cannot : ∀ request, CannotVerify env (requests.net request))
    {trace : List (WorkerStep ι)} {state : WorkerState ι}
    (reaches : Reaches (requests.work runtime alloy) OverlayState.new trace state) :
    (∃ mocked : WorkerState ι,
      Reaches (requests.work runtime alloy) OverlayState.new
        (trace.filter fun label => (requests.request label.request).mockState ≠ none) mocked ∧
      state.stored = mocked.stored ∧ state.log = mocked.log ∧
      ∀ request, (requests.request request).mockState ≠ none →
        state.phase request = mocked.phase request) ∧
    ∀ request, (requests.request request).mockState = none → ∀ response,
      WorkerState.response state request = some response →
      ∃ e, response = .badRequest (ExecError.display
        (if env "ROBINHOOD_RPC_URL" = none then .noState else .verification e)) := by
  constructor
  · have simulates : Simulates (fun request => (requests.request request).mockState ≠ none)
        (fun _ => Eq) (requests.work runtime alloy) (requests.work runtime alloy) :=
      { refused := by
          intro request unmocked overlay
          rcases work_of_cannotVerify alloy runtime started (cannot request)
            (not_not.mp unmocked) with ⟨e, refused⟩
          rw [refused overlay]
          rfl
        alike := fun _ _ _ => rfl
        stored := fun _ _ _ same => by rw [same] }
    rcases simulates.reaches reaches with ⟨mocked, reaches_mocked, same⟩
    exact ⟨mocked, reaches_mocked, same.stored, same.log,
      fun request is_mock => (same.kept request is_mock).eq⟩
  · intro request unmocked response responded
    rcases work_of_cannotVerify alloy runtime started (cannot request) unmocked with ⟨e, refused⟩
    exact ⟨e, WorkerState.response_of_refused (inv_of_reaches reaches) refused responded⟩

/-- A mainnet worker with the default L1 server, which has no events. -/
def mainnetEnv : Env := fun name =>
  if name = "ROBINHOOD_RPC_URL" then some "https://rpc.mainnet.chain.robinhood.com"
  else if name = "ROBINHOOD_NETWORK" then some "mainnet"
  else none

/-- Only the L1 server can be reached, and it has no logs. -/
def sepoliaNetwork : Network :=
  { offlineNetwork with
    l1 := fun _ => .ok { getBlockNumber := .ok 10300000, getLogs := fun _ => .ok [] } }

/-- A mock transfer, and a request whose base state the worker would have to verify. -/
def mockAndVerified : Requests Bool where
  workerConfig := (Settings.fromEnv mainnetEnv).workerConfig
  request verified :=
    if verified then
      { mockTransfer 0x11 0x22 100 1 with accessList := [⟨0x11, []⟩], mockState := none }
    else mockTransfer 0x11 0x22 100 1
  net _ := sepoliaNetwork

/-- The second request fails, and the run is that of the first one. -/
theorem mock_requests_alone_mainnet :
    ∃ state mocked e,
      Reaches (mockAndVerified.work (transferRuntime Keccak.hash) offlineAlloy) OverlayState.new
        [.snapshot false, .snapshot true, .execute true, .store true, .execute false,
          .store false] state ∧
      Reaches (mockAndVerified.work (transferRuntime Keccak.hash) offlineAlloy) OverlayState.new
        (requestSteps false) mocked ∧
      state.stored = mocked.stored ∧
      WorkerState.response state true = some (.badRequest (ExecError.verification e).display) := by
  rcases exists_run_of_two (mockAndVerified.work (transferRuntime Keccak.hash) offlineAlloy)
    OverlayState.new with ⟨state, reaches, responded⟩
  have silent : ∀ l1, sepoliaNetwork.l1 defaultL1Rpc = .ok l1 →
      l1.HasNoLogs NetworkConfig.mainnet.rollupAddress := by
    rintro _ ⟨⟩ filter logs asks ⟨⟩
    rfl
  rcases mock_requests_alone mainnetEnv mockAndVerified rfl
    (fun _ => .inr ⟨rfl, rfl, silent⟩) reaches with ⟨⟨mocked, reaches_mocked, stored, -⟩, refused⟩
  have answered : (WorkerState.response state true).isSome := by
    rw [WorkerState.response, responded true]
    cases mockAndVerified.work (transferRuntime Keccak.hash) offlineAlloy true OverlayState.new with
    | error e => rfl
    | ok reached => rfl
  rcases Option.isSome_iff_exists.mp answered with ⟨response, answered⟩
  rcases refused true rfl response answered with ⟨e, rfl⟩
  exact ⟨state, mocked, e, reaches, reaches_mocked, stored, answered⟩

end Zkhood
