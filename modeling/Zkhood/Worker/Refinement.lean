import Zkhood.Data.SnapshotSimulation
import Zkhood.Worker.AccessList
import Zkhood.Worker.Batches

/-!
# The worker without its servers

Take the servers away: a worker executes a verified request on the state of the
L2 block which is confirmed at that time, on the accounts of the request's
access list, on their code, and on those of their slots which it is shown. What
is not shown or not listed has a default.

The real worker refines this one. Whatever the untrusted servers answer to each
request, and however the requests interleave, the servers can choose which slots
are shown, and they can make requests fail; without the failed requests, the run
is one of the worker without servers, with the same responses.

The labels of a batch, its number, its nonce and the address of its rollup, are
echoed in the response and read by nothing.
-/

namespace Zkhood

open SnapshotCell

section Fetched

variable {ι : Type} (runtime : Runtime Infallible) (alloy : Alloy) (requests : Requests ι)

/-- What a worker without servers does for a request, which has a confirmed L2 state and slots which
are shown. -/
def Requests.fetchedWork (state : ι → L2State) (shown : ι → Address → U256 → Bool) (request : ι)
    (overlay : OverlayState) : Except (Failure ExecError) (ExecuteBatchResponse × OverlayState) :=
  let req := requests.request request
  let base := match req.mockState with
    | some provider => provider.databaseRef
    | none => fetchedDatabase (state request) req.accessList (shown request)
  (run runtime base overlay req.ctx req.txs).mapError .report

/-- The servers made the verification of the request fail. -/
def Requests.Denied (request : ι) : Prop :=
  (baseState alloy requests.workerConfig (requests.net request)
    (requests.request request)).toOption = none

instance : DecidablePred (requests.Denied alloy) := fun _ => inferInstanceAs (Decidable (_ = none))

variable {runtime alloy requests} {cfg : WorkerConfig}

theorem Requests.baseState_of_verified {request : ι} (configured : requests.workerConfig = some cfg)
    (unmocked : (requests.request request).mockState = none) :
    baseState alloy requests.workerConfig (requests.net request) (requests.request request) =
      ((verifiedProvider alloy (requests.net request) cfg
        (requests.request request).accessList).mapError (·.map .verification)).map .verified := by
  simp only [baseState, configured, unmocked]

theorem Requests.baseState_of_mock {request : ι} {provider : MockRobinhoodStateProvider}
    (mock : (requests.request request).mockState = some provider) :
    baseState alloy requests.workerConfig (requests.net request) (requests.request request) =
      .ok (.mock provider) := by
  simp only [baseState, mock]

variable (runtime) in
/-- A denied request fails on every overlay with the failure of its verification. -/
theorem Requests.work_of_denied {request : ι} (configured : requests.workerConfig = some cfg)
    (denied : requests.Denied alloy request) :
    ∃ failure : Failure String, ∀ overlay, requests.work runtime alloy request overlay =
      .error (failure.map .verification) := by
  rw [Denied] at denied
  cases mock : (requests.request request).mockState with
  | some provider =>
      rw [baseState_of_mock mock] at denied
      cases denied
  | none =>
      rw [baseState_of_verified configured mock] at denied
      cases fetched : verifiedProvider alloy (requests.net request) cfg
          (requests.request request).accessList with
      | ok provider =>
          rw [fetched] at denied
          cases denied
      | error failure =>
          refine ⟨failure, ?_⟩
          intro overlay
          rw [work, dispatch_eq, baseState_of_verified configured mock, fetched]
          rfl

/-- The slots which the servers have shown for a request. -/
def Requests.shownSlots (alloy : Alloy) (requests : Requests ι) (request : ι) (address : Address)
    (index : U256) : Bool :=
  match baseState alloy requests.workerConfig (requests.net request) (requests.request request) with
  | .ok (.verified provider) => provider.storage.contains (address, index)
  | _ => false

/-- A request which is not denied is executed on the confirmed state of its accounts and on the
slots which the servers have shown. -/
theorem Requests.work_of_not_denied {world : ι → ConfirmedBlock alloy} {request : ι}
    (collisionFree : (world request).CollisionFree)
    (keccak_nil : alloy.keccak256 [] = keccakEmpty) (configured : requests.workerConfig = some cfg)
    (honest : ∀ rpc, (requests.net request).helios cfg.heliosRpc = .ok rpc →
      (world request).Honest cfg.network.rollupAddress rpc)
    (answered : ¬requests.Denied alloy request) (overlay : OverlayState) :
    requests.work runtime alloy request overlay =
      requests.fetchedWork runtime (fun request => (world request).state)
        (requests.shownSlots alloy) request overlay := by
  rw [Denied] at answered
  rw [work, dispatch_eq, fetchedWork]
  cases mock : (requests.request request).mockState with
  | some provider =>
      rw [baseState_of_mock mock]
      rfl
  | none =>
      have base := @baseState_of_verified _ alloy requests cfg _ configured mock
      rw [base] at answered
      cases fetched : verifiedProvider alloy (requests.net request) cfg
          (requests.request request).accessList with
      | error failure =>
          rw [fetched] at answered
          exact absurd rfl answered
      | ok provider =>
          rcases verifiedProvider_ok collisionFree keccak_nil honest fetched with
            ⟨covers, authentic, -⟩
          rw [fetched] at base
          have shown : requests.shownSlots alloy request =
              fun address index => provider.storage.contains (address, index) := by
            funext address index
            rw [shownSlots, base]
            rfl
          rw [base, shown, ← databaseRef_eq_fetchedDatabase covers authentic]
          rfl

/-- The slots which are shown belong to accounts of the access list. -/
theorem Requests.listed_of_shownSlots {world : ι → ConfirmedBlock alloy} {request : ι}
    (collisionFree : (world request).CollisionFree)
    (keccak_nil : alloy.keccak256 [] = keccakEmpty) (configured : requests.workerConfig = some cfg)
    (honest : ∀ rpc, (requests.net request).helios cfg.heliosRpc = .ok rpc →
      (world request).Honest cfg.network.rollupAddress rpc) {address : Address} {index : U256}
    (shown : requests.shownSlots alloy request address index) :
    Listed (requests.request request).accessList address := by
  rw [shownSlots] at shown
  split at shown
  · rename_i provider base
    cases mock : (requests.request request).mockState with
    | some other =>
        rw [baseState_of_mock mock] at base
        cases base
    | none =>
        rw [baseState_of_verified configured mock] at base
        cases fetched : verifiedProvider alloy (requests.net request) cfg
            (requests.request request).accessList with
        | error failure =>
            rw [fetched] at base
            cases base
        | ok found =>
            rw [fetched] at base
            cases base
            exact (verifiedProvider_ok collisionFree keccak_nil honest fetched).1.storage address
              index (Std.ExtTreeMap.contains_iff_mem.mp shown)
  · cases shown

variable [DecidableEq ι]

/-- Untrusted servers can only deny service or withhold storage, each request having a confirmed
block of its own. Whatever they answer, some slots of the listed accounts are shown to each
request, and without the steps of the denied requests every interleaving is one of the worker
without servers on these slots, with the same stored overlay and the same response to every other
request. The callers of denied requests get the error of the verification, or nothing. -/
theorem worker_refines_fetched (world : ι → ConfirmedBlock alloy)
    (collisionFree : ∀ request, (world request).CollisionFree)
    (keccak_nil : alloy.keccak256 [] = keccakEmpty) (configured : requests.workerConfig = some cfg)
    (honest : ∀ request rpc, (requests.net request).helios cfg.heliosRpc = .ok rpc →
      (world request).Honest cfg.network.rollupAddress rpc) :
    ∃ shown : ι → Address → U256 → Bool,
      (∀ request address index, shown request address index →
        Listed (requests.request request).accessList address) ∧
      ∀ (overlay : OverlayState) (trace : List (WorkerStep ι)) (state : WorkerState ι),
        Reaches (requests.work runtime alloy) overlay trace state →
        (∃ other : WorkerState ι,
          Reaches (requests.fetchedWork runtime (fun request => (world request).state) shown)
            overlay (trace.filter fun label => ¬requests.Denied alloy label.request) other ∧
          state.stored = other.stored ∧ state.log = other.log ∧
          ∀ request, ¬requests.Denied alloy request →
            state.phase request = other.phase request) ∧
        ∀ request, requests.Denied alloy request → ∀ response,
          WorkerState.response state request = some response →
          response = .closed ∨
            ∃ report, response = .badRequest (ExecError.verification report).display := by
  refine ⟨requests.shownSlots alloy, fun request address index =>
    Requests.listed_of_shownSlots (collisionFree request) keccak_nil configured (honest request),
    ?_⟩
  intro overlay trace state reaches
  constructor
  · have simulates : Simulates (fun request => ¬requests.Denied alloy request) (fun _ => Eq)
        (requests.work runtime alloy)
        (requests.fetchedWork runtime (fun request => (world request).state)
          (requests.shownSlots alloy)) :=
      { refused := by
          intro request denied overlay
          rcases Requests.work_of_denied runtime configured (not_not.mp denied) with
            ⟨failure, refused⟩
          rw [refused overlay]
          rfl
        alike := fun request answered overlay =>
          Requests.work_of_not_denied (collisionFree request) keccak_nil configured
            (honest request) answered overlay
        stored := fun _ _ _ same => by rw [same] }
    rcases simulates.reaches reaches with ⟨other, reaches_other, same⟩
    exact ⟨other, reaches_other, same.stored, same.log,
      fun request answered => (same.kept request answered).eq⟩
  · intro request denied response responded
    rcases Requests.work_of_denied runtime configured denied with ⟨failure, refused⟩
    have given := WorkerState.response_of_refused (inv_of_reaches reaches) refused responded
    cases failure with
    | panic => exact Or.inl given
    | report report => exact Or.inr ⟨report, given⟩

end Fetched

namespace OneAccount

/-- The L2 server hangs up when it is asked for an account. -/
def withheldNet : Network :=
  { net with l2Account := fun _ _ => .error "connection refused" }

/-- The same verified request twice; the servers deny the second one. -/
def oneDenied : Requests Bool where
  workerConfig := some .testnet
  request _ :=
    { ctx := testnetContext, txs := emptyTransfer, accessList := [⟨0x11, []⟩], mockState := none }
  net second := if second then withheldNet else net

theorem not_denied_first : ¬oneDenied.Denied alloy false := by
  have fetched : verifiedProvider alloy net .testnet [⟨0x11, []⟩] =
      .ok (fetch [⟨0x11, []⟩]).1 :=
    verifiedProvider_eq (by decide +kernel)
  simp only [Requests.Denied, baseState, oneDenied, Bool.false_eq_true, if_false, fetched]
  exact Option.some_ne_none _

theorem denied_second : oneDenied.Denied alloy true := by
  have withheld : verifiedProvider alloy withheldNet .testnet [⟨0x11, []⟩] =
      .error (.report "connection refused") := by
    simp only [verifiedProvider, withheldNet, net, WorkerConfig.testnet, anchored, rooted,
      mapError_ok, bind, Except.bind]
    rfl
  simp only [Requests.Denied, baseState, oneDenied, if_true, withheld]
  rfl

end OneAccount

open OneAccount in
/-- Both requests copy the overlay before either executes. -/
theorem worker_refines_fetched_oneDenied :
    ∃ (state other : WorkerState Bool) (shown : Bool → Address → U256 → Bool),
      Reaches (oneDenied.work (transferRuntime Keccak.hash) alloy) OverlayState.new
        [.snapshot false, .snapshot true, .execute true, .store true, .execute false,
          .store false] state ∧
      Reaches (oneDenied.fetchedWork (transferRuntime Keccak.hash) (fun _ => world.state) shown)
        OverlayState.new (requestSteps false) other ∧
      state.stored = other.stored ∧ state.phase false = other.phase false := by
  rcases exists_run_of_two (oneDenied.work (transferRuntime Keccak.hash) alloy) OverlayState.new
    with ⟨state, reaches, -⟩
  have sidecar : ∀ (request : Bool) rpc,
      (oneDenied.net request).helios WorkerConfig.testnet.heliosRpc = .ok rpc →
        world.Honest NetworkConfig.testnet.rollupAddress rpc := by
    intro request rpc connected
    cases request <;> exact serves.helios rpc connected
  rcases @worker_refines_fetched Bool (transferRuntime Keccak.hash) alloy oneDenied .testnet _
    (fun _ => world) (fun _ => collisionFree) (by decide) rfl sidecar with ⟨shown, -, refines⟩
  rcases (refines _ _ _ reaches).1 with ⟨other, reaches_other, stored, -, same⟩
  refine ⟨state, other, shown, reaches, ?_, stored, same false not_denied_first⟩
  simpa [Step.request, requestSteps, not_denied_first, denied_second] using reaches_other

section Labels

/-- The requests are equal except for the labels of their batches. -/
structure SameButLabels (left right : ExecuteBatchRequest) : Prop where
  chainId : left.ctx.chainId = right.ctx.chainId
  txs : left.txs = right.txs
  accessList : left.accessList = right.accessList
  mockState : left.mockState = right.mockState

/-- The response with the labels of another batch. -/
def ExecuteBatchResponse.relabel (response : ExecuteBatchResponse) (ctx : BatchContext) :
    ExecuteBatchResponse :=
  { response with
    publicValues := { response.publicValues with
      rollupAddress := ctx.rollupAddress
      batchNumber := ctx.batchNumber
      teeBatchNonce := ctx.teeBatchNonce } }

/-- What a caller receives, with the labels of another batch. -/
def HttpResponse.relabel (ctx : BatchContext) : HttpResponse → HttpResponse
  | ok resp => ok (resp.relabel ctx)
  | badRequest error => badRequest error
  | closed => closed

@[simp] theorem HttpResponse.relabel_ofFailure (ctx : BatchContext) (failure : Failure ExecError) :
    (ofFailure failure).relabel ctx = ofFailure failure := by
  cases failure <;> rfl

variable {runtime : Runtime Infallible} {alloy : Alloy}

/-- The result of the other request, with the labels of this one. -/
def Relabelled (req : ExecuteBatchRequest)
    (left right : Except (Failure ExecError) (ExecuteBatchResponse × OverlayState)) : Prop :=
  right = left.map fun reached => (reached.1.relabel req.ctx, reached.2)

/-- The labels of a request go to its public values and nowhere else. -/
theorem dispatch_relabel {left right : ExecuteBatchRequest} (same : SameButLabels left right)
    (workerConfig : Option WorkerConfig) (net : Network) (overlay : OverlayState) :
    Relabelled right (dispatch runtime alloy workerConfig net left overlay)
      (dispatch runtime alloy workerConfig net right overlay) := by
  have base : baseState alloy workerConfig net left = baseState alloy workerConfig net right := by
    simp only [baseState, same.mockState, same.accessList]
  rw [Relabelled, dispatch_eq, dispatch_eq, base]
  cases baseState alloy workerConfig net right with
  | error failure => rfl
  | ok base =>
      simp only [bind, Except.bind, run, applyBatchWithOverlay, applyBatchStateful, same.chainId,
        same.txs]
      cases transactAll runtime (runtime.build (overlay.layerOver base.databaseRef)
          right.ctx.chainId) [] [] right.txs with
      | error failure => rfl
      | ok reached => rfl

variable {ι : Type} [DecidableEq ι] {overlay : OverlayState} {trace : List (WorkerStep ι)}
  {state : WorkerState ι}

/-- The labels of the batches are only echoed: under other batch numbers, nonces and rollup
addresses every interleaving takes the same steps, stores the same overlays and gives the same
responses up to these fields. -/
theorem labels_only_echoed (requests relabelled : Requests ι)
    (configured : relabelled.workerConfig = requests.workerConfig)
    (connected : relabelled.net = requests.net)
    (same : ∀ request, SameButLabels (requests.request request) (relabelled.request request))
    (reaches : Reaches (requests.work runtime alloy) overlay trace state) :
    ∃ other : WorkerState ι, Reaches (relabelled.work runtime alloy) overlay trace other ∧
      other.stored = state.stored ∧ other.log = state.log ∧
      ∀ request, WorkerState.response other request =
        (WorkerState.response state request).map
          (HttpResponse.relabel (relabelled.request request).ctx) := by
  have simulates : Simulates (fun _ => True)
      (fun request => Relabelled (relabelled.request request))
      (requests.work runtime alloy) (relabelled.work runtime alloy) :=
    { refused := fun _ dropped => absurd trivial dropped
      alike := by
        intro request _ overlay
        rw [Requests.work, Requests.work, configured, connected]
        exact dispatch_relabel (same request) _ _ _
      stored := by
        rintro request (failure | reached) _ rfl
        · rfl
        · rfl }
  rcases simulates.reaches reaches with ⟨other, reaches_other, alike⟩
  rw [List.filter_eq_self.mpr (by simp)] at reaches_other
  refine ⟨other, reaches_other, alike.stored.symm, alike.log.symm, ?_⟩
  intro request
  have corresponds := alike.kept request trivial
  rw [WorkerState.response, WorkerState.response]
  generalize state.phase request = phase at corresponds
  generalize other.phase request = phase' at corresponds
  cases corresponds with
  | received => rfl
  | snapshotted snapshot => rfl
  | executed snapshot alike => rfl
  | @responded snapshot result result' alike =>
      cases result with
      | error failure =>
          cases alike
          rw [Option.map_some, HttpResponse.relabel_ofFailure]
          rfl
      | ok reached =>
          cases alike
          rfl

end Labels

/-- The two transfers, both with the labels of one batch. -/
def duplicateLabels : Requests Bool :=
  { twoTransfers with
    request := fun second =>
      { twoTransfers.request second with
        ctx := { testnetContext with batchNumber := 9, teeBatchNonce := 9 } } }

/-- Two overlapping requests for one batch number are both served. -/
theorem labels_only_echoed_duplicateLabels :
    ∃ other, Reaches (duplicateLabels.work (transferRuntime Keccak.hash) offlineAlloy)
        OverlayState.new overlappingTrace other ∧ other.log = [false, true] := by
  rcases exists_overlapping_run with ⟨state, reaches, logged, -⟩
  have same : ∀ second, SameButLabels (twoTransfers.request second)
      (duplicateLabels.request second) := by
    intro second
    cases second <;> exact ⟨rfl, rfl, rfl, rfl⟩
  rcases labels_only_echoed twoTransfers duplicateLabels rfl rfl same reaches with
    ⟨other, reaches_other, -, log, -⟩
  exact ⟨other, reaches_other, log.trans logged⟩

end Zkhood
