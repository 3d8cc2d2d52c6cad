import Zkhood.Data.SnapshotCell
import Zkhood.Executor.Transfer
import Zkhood.Worker.Exec

/-!
# The request handler

`executeBatchHandler` handles one request from start to end. In the worker the
handlers of many requests interleave: each takes the lock to copy the overlay,
gives it back, executes, and takes it again to store. `WorkerStep` runs are the
interleavings of these three steps, over any set of requests.
-/

namespace Zkhood

/-- The state which the handlers share. -/
structure AppState where
  overlay : OverlayState
  /-- Verified-state config; `none` means dev-only mode. -/
  workerConfig : Option WorkerConfig

/-- What a caller receives. When the handler panics, its connection is closed without an answer. -/
inductive HttpResponse where
  | ok (resp : ExecuteBatchResponse)
  | badRequest (error : String)
  | closed
deriving DecidableEq

/-- The public values which a caller receives. -/
def HttpResponse.publicValues : HttpResponse → Option PublicValues
  | ok resp => some resp.publicValues
  | badRequest _ => none
  | closed => none

/-- What the caller of a failed request receives. -/
def HttpResponse.ofFailure : Failure ExecError → HttpResponse
  | .report e => badRequest e.display
  | .panic => closed

@[simp] theorem HttpResponse.publicValues_ofFailure (failure : Failure ExecError) :
    (ofFailure failure).publicValues = none := by
  cases failure <;> rfl

section Handler

variable (runtime : Runtime Infallible) (alloy : Alloy)

/-- The verified path when the enclave is configured and the request is not an explicit mock
request. -/
def dispatch (workerConfig : Option WorkerConfig) (net : Network) (req : ExecuteBatchRequest)
    (overlay : OverlayState) : Except (Failure ExecError) (ExecuteBatchResponse × OverlayState) :=
  match workerConfig, req.mockState.isSome with
  | some cfg, false => executeBatchVerified runtime alloy net req overlay cfg
  | _, _ => (executeBatchMock runtime req overlay).mapError .report

/-- Handles one request while no other runs. A panic leaves the handler before it stores. -/
def executeBatchHandler (state : AppState) (net : Network) (req : ExecuteBatchRequest) :
    AppState × HttpResponse :=
  let overlay := state.overlay
  match dispatch runtime alloy state.workerConfig net req overlay with
  | .ok (resp, newOverlay) => ({ state with overlay := newOverlay }, .ok resp)
  | .error failure => (state, .ofFailure failure)

end Handler

/-- The requests of a worker, each with the servers as they answer it. -/
structure Requests (ι : Type) where
  workerConfig : Option WorkerConfig
  request : ι → ExecuteBatchRequest
  net : ι → Network

/-- How far the handlers of the requests have come. -/
abbrev WorkerState (ι : Type) :=
  SnapshotCell.State ι OverlayState ExecuteBatchResponse (Failure ExecError)

/-- A step of a handler: copy the overlay, execute on the copy, or store and respond. -/
abbrev WorkerStep (ι : Type) := SnapshotCell.Step ι

section Runs

variable {ι : Type} (runtime : Runtime Infallible) (alloy : Alloy) (requests : Requests ι)

/-- What the handler of a request does with its copy of the overlay. -/
def Requests.work (request : ι) (overlay : OverlayState) :
    Except (Failure ExecError) (ExecuteBatchResponse × OverlayState) :=
  dispatch runtime alloy requests.workerConfig (requests.net request) (requests.request request)
    overlay

/-- What a request has been answered, if it has. -/
def WorkerState.response (state : WorkerState ι) (request : ι) : Option HttpResponse :=
  match state.phase request with
  | .responded _ (.ok (resp, _)) => some (.ok resp)
  | .responded _ (.error failure) => some (.ofFailure failure)
  | _ => none

/-- The responses and the last overlay when requests are handled one after another. -/
def Requests.serveInOrder (overlay : OverlayState) : List ι → List HttpResponse × OverlayState
  | [] => ([], overlay)
  | request :: rest =>
      let (state, response) := executeBatchHandler runtime alloy ⟨overlay, requests.workerConfig⟩
        (requests.net request) (requests.request request)
      let (responses, final) := Requests.serveInOrder state.overlay rest
      (response :: responses, final)

variable [DecidableEq ι]

/-- A handler which runs alone takes its three steps as `executeBatchHandler` does. -/
theorem run_handler_alone {state : WorkerState ι} {request : ι}
    (waiting : state.phase request = .received) :
    ∃ next, Trace.run (SnapshotCell.step (requests.work runtime alloy)) state
        (SnapshotCell.requestSteps request) = some next ∧
      let handled := executeBatchHandler runtime alloy ⟨state.stored, requests.workerConfig⟩
        (requests.net request) (requests.request request)
      next.stored = handled.1.overlay ∧ WorkerState.response next request = some handled.2 := by
  rcases SnapshotCell.run_requestSteps (requests.work runtime alloy) waiting with
    ⟨next, executed, responded, -, stored⟩
  refine ⟨next, executed, ?_⟩
  simp only [Requests.work] at stored responded
  simp only [executeBatchHandler, WorkerState.response, stored, responded]
  cases dispatch runtime alloy requests.workerConfig (requests.net request)
      (requests.request request) state.stored with
  | error failure => exact ⟨rfl, rfl⟩
  | ok reached => exact ⟨rfl, rfl⟩

end Runs

section Commitments

variable {runtime : Runtime Infallible} {alloy : Alloy}

theorem run_ok {base : DatabaseRef Infallible} {overlay next : OverlayState} {ctx : BatchContext}
    {txs : List TxEnv} {response : ExecuteBatchResponse}
    (ok : run runtime base overlay ctx txs = .ok (response, next)) :
    ∃ outcomes, applyBatchWithOverlay runtime base overlay ctx txs =
      .ok (outcomes, response.publicValues, next) := by
  simp only [run, bind_eq_ok_iff, mapError_eq_ok_iff] at ok
  rcases ok with ⟨⟨outcomes, publicValues, reached⟩, executed, result⟩
  cases result
  exact ⟨outcomes, executed⟩

/-- A successful request executed its batch over some base. -/
theorem dispatch_ok {workerConfig : Option WorkerConfig} {net : Network}
    {req : ExecuteBatchRequest} {overlay next : OverlayState} {response : ExecuteBatchResponse}
    (ok : dispatch runtime alloy workerConfig net req overlay = .ok (response, next)) :
    ∃ base outcomes, applyBatchWithOverlay runtime base overlay req.ctx req.txs =
      .ok (outcomes, response.publicValues, next) := by
  have mock : executeBatchMock runtime req overlay = .ok (response, next) →
      ∃ base outcomes, applyBatchWithOverlay runtime base overlay req.ctx req.txs =
        .ok (outcomes, response.publicValues, next) := by
    intro ok
    rw [executeBatchMock] at ok
    split at ok
    · cases ok
    · exact ⟨_, run_ok ok⟩
  unfold dispatch at ok
  split at ok
  · simp only [executeBatchVerified, bind_eq_ok_iff, mapError_eq_ok_iff] at ok
    rcases ok with ⟨provider, -, executed⟩
    exact ⟨_, run_ok executed⟩
  · exact mock (mapError_eq_ok_iff.mp ok)

/-- The public values of a successful request start at the commitment of its copy and end at the
commitment of what it stores. -/
theorem dispatch_commitments {workerConfig : Option WorkerConfig} {net : Network}
    {req : ExecuteBatchRequest} {overlay next : OverlayState} {response : ExecuteBatchResponse}
    (ok : dispatch runtime alloy workerConfig net req overlay = .ok (response, next)) :
    response.publicValues.oldStateCommitment = overlay.commitment ∧
      next.commitment = response.publicValues.newStateCommitment := by
  rcases dispatch_ok ok with ⟨base, outcomes, executed⟩
  exact applyBatchWithOverlay_commitments executed

end Commitments

section MockRequests

/-- No server can be reached. -/
def offlineNetwork : Network where
  helios _ := .error "offline"
  l1 _ := .error "offline"
  l2Block _ := .error "offline"
  l2Account _ _ := .error "offline"

/-- The library of a worker which reaches no server. -/
def offlineAlloy : Alloy where
  keccak256 := Keccak.hash
  isBytecode := Bytecode.isWellFormed
  decodeReturns _ := .error "offline"
  decodeLog _ := .error "offline"
  hashSlow _ := 0
  verifyProof _ _ _ _ := .error "offline"

/-- A mock request which moves value from an account with the balance it asserts. -/
def mockTransfer (caller target : Address) (balance value : U256) : ExecuteBatchRequest where
  ctx := testnetContext
  txs := [transferTx caller target value 0]
  accessList := []
  mockState := some (fundedProvider [(caller, balance)])

end MockRequests

end Zkhood
