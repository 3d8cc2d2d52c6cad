import Zkhood.Worker.Batches
import Zkhood.Worker.Forks

/-!
# Settling the responses of a running worker

The worker responds before its batches are proved. The guest, given the copy of
the overlay which a request worked on and the base state behind it, commits to
the public values of the response. So the responses along a branch are settled
as a chain of commitments, and there is always a branch which ends in the stored
overlay.
-/

namespace Zkhood

open SnapshotCell

section Definitions

variable {ι : Type} (alloy : Alloy) (requests : Requests ι)

/-- The batches of a chain of requests, as the guest proves them. -/
def Requests.teeBatches (chain : List ι) : List TeeBatch :=
  chain.filterMap (requests.teeBatch? alloy)

/-- The public values of the successful responses among these. -/
def WorkerState.values (state : WorkerState ι) (chain : List ι) : List PublicValues :=
  chain.filterMap fun request => (WorkerState.response state request).bind HttpResponse.publicValues

/-- All requests of a chain have responses. The guest's outputs on their batches are the encodings
of the public values, which are linked from one commitment to the other. -/
structure Requests.Settles (runtime : Runtime Infallible) (state : WorkerState ι)
    (first : OverlayState) (chain : List ι) (last : OverlayState) : Prop where
  length : (WorkerState.values state chain).length = chain.length
  outputs : settledOutputs runtime first (requests.teeBatches alloy chain) =
    (WorkerState.values state chain).map encodePublicValues
  linked : Linked first.commitment (WorkerState.values state chain) last.commitment

end Definitions

variable {ι : Type} {runtime : Runtime Infallible} {alloy : Alloy} {requests : Requests ι}
  {overlay : OverlayState} {state : WorkerState ι}

theorem settledOutputs_cons_of_ok {first next : OverlayState} {batch : TeeBatch}
    {outcomes : List (TxOutcome runtime.ExecutionResult)} {publicValues : PublicValues}
    (applied : applyBatchWithOverlay runtime batch.base.databaseRef first batch.ctx batch.txs =
      .ok (outcomes, publicValues, next)) (rest : List TeeBatch) :
    settledOutputs runtime first (batch :: rest) =
      encodePublicValues publicValues :: settledOutputs runtime next rest := by
  rw [settledOutputs, guestMain, runBatch_reproducingWitness, teeValues]
  simp only [applied, Option.map_some, Option.toList_some, List.singleton_append]

/-- The guest commits to the public values of a chain, one after another. -/
theorem settles_of_chain (inv : Inv (requests.work runtime alloy) overlay state)
    {first last : OverlayState} {chain : List ι} (linked : state.Chain first chain last) :
    requests.Settles alloy runtime state first chain last := by
  induction chain generalizing first with
  | nil =>
      cases linked
      exact ⟨rfl, rfl, rfl⟩
  | cons request rest ih =>
      rcases linked with ⟨response, next, held, later⟩
      have ok := (inv.results request first _ (Or.inr held)).symm
      rcases teeBatch?_of_work_ok ok with ⟨batch, outcomes, is_batch, -, applied⟩
      rcases applyBatchWithOverlay_commitments applied with ⟨old, new⟩
      have values : WorkerState.values state (request :: rest) =
          response.publicValues :: WorkerState.values state rest := by
        simp [WorkerState.values, WorkerState.response, held, HttpResponse.publicValues]
      have settles := ih later
      refine ⟨?_, ?_, ?_⟩
      · rw [values, List.length_cons, List.length_cons, settles.length]
      · rw [Requests.teeBatches, List.filterMap_cons, is_batch, values, List.map_cons,
          ← settles.outputs]
        exact settledOutputs_cons_of_ok applied _
      · rw [values]
        exact ⟨old, new ▸ settles.linked⟩

variable [DecidableEq ι] {trace : List (WorkerStep ι)}

/-- In every state of every interleaving, some of the responses given, in the order of their
stores, are settled as a chain of commitments which ends at that of the stored overlay; these are
all of them if no update was lost. Each response ends such a chain, with its own public values. -/
theorem stored_overlay_settles
    (reaches : Reaches (requests.work runtime alloy) overlay trace state) :
    (∃ chain, chain.Sublist state.log ∧
      requests.Settles alloy runtime state overlay chain state.stored) ∧
    (FreshStores (requests.work runtime alloy) overlay trace →
      requests.Settles alloy runtime state overlay state.log state.stored) ∧
    ∀ request response, WorkerState.response state request = some (.ok response) →
      ∃ earlier last, (earlier ++ [request]).Sublist state.log ∧
        requests.Settles alloy runtime state overlay (earlier ++ [request]) last ∧
        (WorkerState.values state (earlier ++ [request])).getLast? =
          some response.publicValues := by
  have inv := inv_of_reaches reaches
  refine ⟨?_, ?_, ?_⟩
  · rcases inv.stored with ⟨chain, ordered, linked⟩
    exact ⟨chain, ordered, settles_of_chain inv linked⟩
  · intro fresh
    exact settles_of_chain inv (chain_of_freshStores reaches fresh)
  · intro request response responded
    have succeeded : state.Succeeded request := by
      rw [WorkerState.response] at responded
      split at responded
      · exact ⟨_, _, _, ‹_›⟩
      · rename_i failure _
        cases failure <;> cases responded
      · cases responded
    rcases List.append_of_mem ((inv.mem_log request).mpr succeeded) with ⟨front, back, split⟩
    rcases exists_chain_of_log reaches split with
      ⟨earlier, snapshot, stored_response, next, ordered, linked, held⟩
    refine ⟨earlier, next, ?_, settles_of_chain inv (linked.concat held), ?_⟩
    · rw [split]
      exact ordered.append (List.singleton_sublist.mpr List.mem_cons_self)
    · simp [WorkerState.values, List.filterMap_append, responded, HttpResponse.publicValues]

/-- Both overlapping transfers are settled, each on a branch of its own. -/
theorem stored_overlay_settles_overlapping :
    ∃ state chain, runTransfers overlappingTrace = some state ∧ chain.Sublist [false, true] ∧
      twoTransfers.Settles offlineAlloy (transferRuntime Keccak.hash) state OverlayState.new chain
        state.stored ∧
      ∀ request response, WorkerState.response state request = some (.ok response) →
        ∃ earlier last, twoTransfers.Settles offlineAlloy (transferRuntime Keccak.hash) state
          OverlayState.new (earlier ++ [request]) last := by
  rcases exists_overlapping_run with ⟨state, reaches, logged, -⟩
  rcases stored_overlay_settles reaches with ⟨⟨chain, ordered, settles⟩, -, branches⟩
  refine ⟨state, chain, reaches, logged ▸ ordered, settles, ?_⟩
  intro request response responded
  rcases branches request response responded with ⟨earlier, last, -, settled, -⟩
  exact ⟨earlier, last, settled⟩

end Zkhood
