import Zkhood.Guest.SettledChain
import Zkhood.Worker.Interleaving

/-!
# The batch behind a request

Where a request gets its base state from depends on the request, the worker's
configuration and the servers, but not on the overlay. So a request is a batch
over a base of its own, and a chain of successful requests is a run of batches:
what was proved about runs of the executor holds for the worker, whatever the
interleaving.
-/

namespace Zkhood

open SnapshotCell

section BaseState

variable (runtime : Runtime Infallible) (alloy : Alloy)

/-- The base state which a request is executed over, or why it gets none. -/
def baseState (workerConfig : Option WorkerConfig) (net : Network) (req : ExecuteBatchRequest) :
    Except (Failure ExecError) Base :=
  match workerConfig, req.mockState with
  | _, some provider => .ok (.mock provider)
  | some cfg, none =>
      ((verifiedProvider alloy net cfg req.accessList).mapError (·.map .verification)).map
        .verified
  | none, none => .error (.report .noState)

/-- Both paths get their base state first, and then run the batch on the overlay. -/
theorem dispatch_eq (workerConfig : Option WorkerConfig) (net : Network)
    (req : ExecuteBatchRequest) (overlay : OverlayState) :
    dispatch runtime alloy workerConfig net req overlay =
      baseState alloy workerConfig net req >>= fun base =>
        (run runtime base.databaseRef overlay req.ctx req.txs).mapError .report := by
  cases workerConfig <;> cases mock : req.mockState
  · simp only [dispatch, baseState, executeBatchMock, mock]
    rfl
  · simp only [dispatch, baseState, executeBatchMock, mock]
    rfl
  · rename_i cfg
    simp only [dispatch, baseState, mock, Option.isSome_none, executeBatchVerified]
    cases verifiedProvider alloy net cfg req.accessList <;> rfl
  · simp only [dispatch, baseState, executeBatchMock, mock]
    rfl

end BaseState

section Chains

variable {ι : Type} (runtime : Runtime Infallible) (alloy : Alloy) (requests : Requests ι)

/-- The transactions of a request. -/
def Requests.txs (request : ι) : List TxEnv := (requests.request request).txs

/-- The batch of a request which gets its base state, as the guest's witness is made from it. -/
def Requests.teeBatch? (request : ι) : Option TeeBatch :=
  (baseState alloy requests.workerConfig (requests.net request)
    (requests.request request)).toOption.map fun base =>
      ⟨base, (requests.request request).ctx, requests.txs request⟩

/-- The same batch as the executor sees it. -/
def Requests.batch? (request : ι) : Option (Batch Infallible) :=
  (requests.teeBatch? alloy request).map TeeBatch.toBatch

/-- The batches of a chain of requests. -/
def Requests.batches (chain : List ι) : List (Batch Infallible) :=
  chain.filterMap (requests.batch? alloy)

variable {runtime alloy requests}

/-- A successful request has a batch which the executor takes to its response. -/
theorem teeBatch?_of_work_ok {request : ι} {overlay next : OverlayState}
    {response : ExecuteBatchResponse}
    (ok : requests.work runtime alloy request overlay = .ok (response, next)) :
    ∃ batch outcomes, requests.teeBatch? alloy request = some batch ∧
      batch.txs = requests.txs request ∧
      applyBatchWithOverlay runtime batch.base.databaseRef overlay batch.ctx batch.txs =
        .ok (outcomes, response.publicValues, next) := by
  rw [Requests.work, dispatch_eq, bind_eq_ok_iff] at ok
  rcases ok with ⟨base, is_base, executed⟩
  rcases run_ok (mapError_eq_ok_iff.mp executed) with ⟨outcomes, applied⟩
  refine ⟨⟨base, (requests.request request).ctx, requests.txs request⟩, outcomes, ?_, rfl, applied⟩
  rw [Requests.teeBatch?, is_base]
  rfl

/-- A successful request is a step of its batch. -/
theorem work_ok {request : ι} {overlay next : OverlayState} {response : ExecuteBatchResponse}
    (ok : requests.work runtime alloy request overlay = .ok (response, next)) :
    ∃ batch, requests.batch? alloy request = some batch ∧ batch.txs = requests.txs request ∧
      batchStep runtime overlay batch = some next := by
  rcases teeBatch?_of_work_ok ok with ⟨batch, outcomes, is_batch, same_txs, applied⟩
  refine ⟨batch.toBatch, by rw [Requests.batch?, is_batch, Option.map_some], same_txs, ?_⟩
  simp only [batchStep, TeeBatch.toBatch, applied]

variable {overlay : OverlayState} {state : WorkerState ι}

/-- The only response to a request which is refused on every overlay. -/
theorem WorkerState.response_of_refused (inv : Inv (requests.work runtime alloy) overlay state)
    {request : ι} {failure : Failure ExecError}
    (refused : ∀ overlay, requests.work runtime alloy request overlay = .error failure)
    {response : HttpResponse} (responded : WorkerState.response state request = some response) :
    response = .ofFailure failure := by
  rw [WorkerState.response] at responded
  split at responded
  · rename_i snapshot answer next held
    have worked := inv.results request snapshot _ (Or.inr held)
    rw [refused snapshot] at worked
    cases worked
  · rename_i snapshot error held
    have worked := inv.results request snapshot _ (Or.inr held)
    rw [refused snapshot] at worked
    cases worked
    exact (Option.some.inj responded).symm
  · cases responded

/-- A chain of successful requests is a run of their batches. -/
theorem run_batches_of_chain (inv : Inv (requests.work runtime alloy) overlay state)
    {first last : OverlayState} {chain : List ι} (linked : state.Chain first chain last) :
    Trace.run (batchStep runtime) first (requests.batches alloy chain) = some last ∧
      (requests.batches alloy chain).flatMap Batch.txs = chain.flatMap requests.txs := by
  induction chain generalizing first with
  | nil =>
      cases linked
      exact ⟨rfl, rfl⟩
  | cons request rest ih =>
      rcases linked with ⟨response, next, held, later⟩
      rcases work_ok (inv.results request first _ (Or.inr held)).symm with
        ⟨batch, is_batch, same_txs, stepped⟩
      rcases ih later with ⟨ran, listed⟩
      rw [Requests.batches, List.filterMap_cons, is_batch]
      constructor
      · rw [Trace.run, stepped, Option.bind_some]
        exact ran
      · rw [List.flatMap_cons, List.flatMap_cons, same_txs]
        exact congrArg _ listed

end Chains

end Zkhood
