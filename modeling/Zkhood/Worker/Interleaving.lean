import Zkhood.Worker.Handler

/-!
# Interleaved requests

The worker's handlers share one overlay as the requests of a `SnapshotCell`
share their cell. Whatever the interleaving, the stored overlay goes back to the
initial one through a chain of successful requests whose commitments are linked.

Requests outside that chain are lost: their responses were sent, but their
changes are not in the stored overlay. Two transfers which overlap show it. The
worker is serializable in the runs in which every successful request finds the
overlay as it copied it.
-/

namespace Zkhood

open SnapshotCell

section TwoTransfers

/-- Two mock requests with different callers. -/
def twoTransfers : Requests Bool where
  workerConfig := none
  request second := if second then mockTransfer 0x33 0x44 100 5 else mockTransfer 0x11 0x22 100 7
  net _ := offlineNetwork

/-- Both requests copy the overlay before either stores. -/
def overlappingTrace : List (WorkerStep Bool) :=
  [.snapshot false, .snapshot true, .execute false, .execute true, .store false, .store true]

/-- One request after the other. -/
def sequentialTrace : List (WorkerStep Bool) :=
  [false, true].flatMap requestSteps

/-- The steps of a trace, taken by a fresh worker. -/
def runTransfers (trace : List (WorkerStep Bool)) : Option (WorkerState Bool) :=
  Trace.run (step (twoTransfers.work (transferRuntime Keccak.hash) offlineAlloy))
    (start OverlayState.new) trace

theorem exists_sequential_run :
    ∃ state, runTransfers sequentialTrace = some state ∧ state.log = [false, true] := by
  have computed : (runTransfers sequentialTrace).map State.log = some [false, true] := by
    decide +kernel
  rcases Option.map_eq_some_iff.mp computed with ⟨state, reaches, logged⟩
  exact ⟨state, reaches, logged⟩

/-- Both requests succeed, but the first caller is not in the stored overlay. -/
theorem exists_overlapping_run :
    ∃ state, runTransfers overlappingTrace = some state ∧ state.log = [false, true] ∧
      (state.stored.view 0x11).info = none := by
  have computed : (runTransfers overlappingTrace).map (fun state =>
      (state.log, state.stored.accounts[(0x11 : Address)]?)) = some ([false, true], none) := by
    decide +kernel
  rcases Option.map_eq_some_iff.mp computed with ⟨state, reaches, observed⟩
  rw [Prod.mk.injEq] at observed
  exact ⟨state, reaches, observed⟩

/-- Handled in any order, the first request writes its caller. -/
theorem info_isSome_of_serveInOrder {first : OverlayState} {order : List Bool}
    (given : ∀ response ∈ (twoTransfers.serveInOrder (transferRuntime Keccak.hash) offlineAlloy
      first order).1, response.publicValues.isSome)
    (present : (first.view 0x11).info.isSome ∨ false ∈ order) :
    (((twoTransfers.serveInOrder (transferRuntime Keccak.hash) offlineAlloy first order).2).view
      0x11).info.isSome := by
  induction order generalizing first with
  | nil => simpa [Requests.serveInOrder] using present
  | cons request rest ih =>
      simp only [Requests.serveInOrder, executeBatchHandler] at given ⊢
      cases executed : dispatch (transferRuntime Keccak.hash) offlineAlloy
          twoTransfers.workerConfig (twoTransfers.net request) (twoTransfers.request request) first
          with
      | error failure =>
          rw [executed] at given
          simp at given
      | ok reached =>
          rcases reached with ⟨response, next⟩
          rw [executed] at given
          rcases dispatch_ok executed with ⟨base, outcomes, applied⟩
          apply ih
          · exact fun response response_mem => given response (List.mem_cons_of_mem _ response_mem)
          · rcases present with written | requested
            · exact Or.inl (info_isSome_of_transfers applied (Or.inl written))
            · cases request with
              | true => exact Or.inr (by simpa using requested)
              | false =>
                  refine Or.inl (info_isSome_of_transfers applied (Or.inr ?_))
                  exact ⟨transferTx 0x11 0x22 7 0, by simp [twoTransfers, mockTransfer], rfl⟩

end TwoTransfers

section Provenance

variable {ι : Type}

/-- Successful requests which lead from one overlay to another, each one executed on what its
predecessor stored, with linked commitments. -/
def Provenance (state : WorkerState ι) (first : OverlayState) : List ι → OverlayState → Prop
  | [], last => last = first
  | request :: rest, last => ∃ response next,
      state.phase request = .responded first (.ok (response, next)) ∧
      response.publicValues.oldStateCommitment = first.commitment ∧
      response.publicValues.newStateCommitment = next.commitment ∧
      Provenance state next rest last

variable [DecidableEq ι] {runtime : Runtime Infallible} {alloy : Alloy} {requests : Requests ι}
  {overlay : OverlayState} {trace : List (WorkerStep ι)} {state : WorkerState ι}

omit [DecidableEq ι] in
theorem provenance_of_chain (inv : Inv (requests.work runtime alloy) overlay state)
    {first last : OverlayState} {chain : List ι} (linked : state.Chain first chain last) :
    Provenance state first chain last := by
  induction chain generalizing first with
  | nil => exact linked.symm
  | cons request rest ih =>
      rcases linked with ⟨response, next, held, later⟩
      have commitments := dispatch_commitments (inv.results request first _ (Or.inr held)).symm
      exact ⟨response, next, held, commitments.1, commitments.2.symm, ih later⟩

/-- In every state of every interleaving, the stored overlay was reached from the initial one
through a chain of successful requests, in the order of their store steps. Failing requests
change nothing, and without overlap the chain is all successful requests. -/
theorem storedOverlay_provenance
    (reaches : Reaches (requests.work runtime alloy) overlay trace state) :
    (∃ chain : List ι, chain.Sublist (storeOrder trace) ∧
      (∀ request ∈ chain, state.Succeeded request) ∧
      Provenance state overlay chain state.stored ∧
      (NoOverlap trace → chain.Nodup ∧ ∀ request, state.Succeeded request → request ∈ chain)) ∧
    ∀ front label back before after, trace = front ++ label :: back →
      Reaches (requests.work runtime alloy) overlay front before →
      step (requests.work runtime alloy) before label = some after →
      ¬state.Succeeded label.request → after.stored = before.stored := by
  have inv := inv_of_reaches reaches
  have logged := log_sublist_storeOrder reaches
  constructor
  · by_cases apart : NoOverlap trace
    · refine ⟨state.log, logged, fun request => (inv.mem_log request).mp, ?_, ?_⟩
      · exact provenance_of_chain inv
          (chain_of_freshStores reaches (freshStores_of_noOverlap apart))
      · exact fun _ => ⟨inv.nodup, fun request => (inv.mem_log request).mpr⟩
    · rcases inv.stored with ⟨chain, ordered, linked⟩
      exact ⟨chain, ordered.trans logged,
        fun request request_mem => (inv.mem_log request).mp (ordered.subset request_mem),
        provenance_of_chain inv linked, fun contradiction => absurd contradiction apart⟩
  · rintro front label back before after rfl reaches_front stepped unsuccessful
    apply (step_cases stepped).stored_eq
    intro succeeded
    have later : Trace.run (step (requests.work runtime alloy)) after back = some state := by
      have whole := reaches
      rw [Reaches, Trace.run_append, reaches_front] at whole
      simpa [Trace.run, stepped] using whole
    exact unsuccessful (succeeded_of_run succeeded later)

/-- A run in which two requests overlap and both store. -/
theorem storedOverlay_provenance_overlapping :
    ∃ state, runTransfers overlappingTrace = some state ∧ state.log = [false, true] ∧
      ∃ chain : List Bool, chain.Sublist (storeOrder overlappingTrace) ∧
        (∀ request ∈ chain, state.Succeeded request) ∧
        Provenance state OverlayState.new chain state.stored := by
  rcases exists_overlapping_run with ⟨state, reaches, logged, -⟩
  rcases (storedOverlay_provenance reaches).1 with ⟨chain, ordered, succeeded, linked, -⟩
  exact ⟨state, reaches, logged, chain, ordered, succeeded, linked⟩

end Provenance

section Serial

variable {ι : Type} (runtime : Runtime Infallible) (alloy : Alloy) (requests : Requests ι)

/-- Handling the successful requests one after another, in some order, returns to each the public
values it was given and ends in the stored overlay. -/
def ServedSerially (overlay : OverlayState) (state : WorkerState ι) : Prop :=
  ∃ order : List ι, order.Nodup ∧ (∀ request, request ∈ order ↔ state.Succeeded request) ∧
    (requests.serveInOrder runtime alloy overlay order).1.map HttpResponse.publicValues =
      order.map (fun request => (state.response request).bind HttpResponse.publicValues) ∧
    (requests.serveInOrder runtime alloy overlay order).2 = state.stored

variable {runtime alloy requests}

theorem serveInOrder_of_replays {state : WorkerState ι} {first last : OverlayState}
    {order : List ι} (replays : state.Replays (requests.work runtime alloy) first order last) :
    (requests.serveInOrder runtime alloy first order).1.map HttpResponse.publicValues =
        order.map (fun request => (state.response request).bind HttpResponse.publicValues) ∧
      (requests.serveInOrder runtime alloy first order).2 = last := by
  induction order generalizing first with
  | nil => exact ⟨rfl, replays⟩
  | cons request rest ih =>
      rcases replays with ⟨response, next, executed, ⟨snapshot, stored, given⟩, later⟩
      rcases ih later with ⟨values, final⟩
      have handled : executeBatchHandler runtime alloy ⟨first, requests.workerConfig⟩
          (requests.net request) (requests.request request) =
            (⟨next, requests.workerConfig⟩, .ok response) := by
        rw [Requests.work] at executed
        simp only [executeBatchHandler, executed]
      rw [Requests.serveInOrder, handled]
      refine ⟨?_, final⟩
      rw [List.map_cons, List.map_cons, values, WorkerState.response, given]
      rfl

end Serial

/-- Every state of every run in which each successful request finds the overlay as it copied it
was served serially. -/
theorem servedSerially_of_fresh_overlays {ι : Type} [DecidableEq ι] (runtime : Runtime Infallible)
    (alloy : Alloy) (requests : Requests ι) (overlay : OverlayState)
    {trace : List (WorkerStep ι)} {state : WorkerState ι}
    (reaches : Reaches (requests.work runtime alloy) overlay trace state)
    (fresh : FreshStores (requests.work runtime alloy) overlay trace) :
    ServedSerially runtime alloy requests overlay state := by
  rcases serializable_of_freshStores reaches fresh with ⟨order, nodup, succeeded, replays⟩
  exact ⟨order, nodup, succeeded, serveInOrder_of_replays replays⟩

/-- Two requests which do not overlap. -/
theorem servedSerially_sequential :
    ∃ state, runTransfers sequentialTrace = some state ∧ state.log = [false, true] ∧
      ServedSerially (transferRuntime Keccak.hash) offlineAlloy twoTransfers OverlayState.new
        state := by
  rcases exists_sequential_run with ⟨state, reaches, logged⟩
  exact ⟨state, reaches, logged, servedSerially_of_fresh_overlays _ _ _ _ reaches
    (freshStores_of_noOverlap (noOverlap_flatMap_requestSteps [false, true]))⟩

/-- Once all requests have finished, they were served as in some serial order. -/
def NoLostUpdate (runtime : Runtime Infallible) (alloy : Alloy) : Prop :=
  ∀ (ι : Type) [DecidableEq ι] (requests : Requests ι) (overlay : OverlayState)
    (trace : List (WorkerStep ι)) (state : WorkerState ι),
    Reaches (requests.work runtime alloy) overlay trace state →
    (∀ request, ∃ snapshot result, state.phase request = .responded snapshot result) →
    ServedSerially runtime alloy requests overlay state

/-- The change of the first of two overlapping transfers is lost. -/
theorem not_noLostUpdate_transferRuntime :
    ¬NoLostUpdate (transferRuntime Keccak.hash) offlineAlloy := by
  intro noLostUpdate
  rcases exists_overlapping_run with ⟨state, reaches, logged, unwritten⟩
  have succeeded : ∀ request, state.Succeeded request := by
    intro request
    rw [← (inv_of_reaches reaches).mem_log request, logged]
    cases request <;> simp
  have finished : ∀ request, ∃ snapshot result,
      state.phase request = .responded snapshot result := by
    intro request
    rcases succeeded request with ⟨snapshot, response, next, responded⟩
    exact ⟨snapshot, _, responded⟩
  rcases noLostUpdate Bool twoTransfers OverlayState.new overlappingTrace state reaches finished
    with ⟨order, -, mem_order, values, final⟩
  have given : ∀ response ∈ (twoTransfers.serveInOrder (transferRuntime Keccak.hash) offlineAlloy
      OverlayState.new order).1, response.publicValues.isSome := by
    intro response response_mem
    have carried := List.mem_map_of_mem (f := HttpResponse.publicValues) response_mem
    rw [values] at carried
    rcases List.mem_map.mp carried with ⟨request, -, same⟩
    rcases succeeded request with ⟨snapshot, answer, next, responded⟩
    rw [← same, WorkerState.response, responded]
    rfl
  have written := info_isSome_of_serveInOrder given
    (Or.inr ((mem_order false).mpr (succeeded false)))
  rw [final, unwritten] at written
  cases written

end Zkhood
