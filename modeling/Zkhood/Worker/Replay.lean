import Zkhood.Executor.Nonces
import Zkhood.Worker.Batches
import Zkhood.Worker.Forks

/-!
# Replayed transactions

Along a chain of requests no transaction is executed twice: each request finds
the nonces which its predecessors have used. Requests on different branches do
not see each other, and the same transaction succeeds on both of them. So a
transaction is executed by two requests only if one of them stored over an
overlay which it had not copied.
-/

namespace Zkhood

open SnapshotCell

/-- In a run of successful batches, all transactions are executed. -/
theorem executedTxs_of_run {ε : Type} {runtime : Runtime ε} {overlay final : OverlayState}
    {batches : List (Batch ε)}
    (reaches : Trace.run (batchStep runtime) overlay batches = some final) :
    executedTxs runtime overlay batches = batches.flatMap Batch.txs := by
  induction batches generalizing overlay with
  | nil => rfl
  | cons batch rest ih =>
      rw [Trace.run, Option.bind_eq_some_iff] at reaches
      rcases reaches with ⟨next, stepped, later⟩
      rw [executedTxs, stepped, List.flatMap_cons, ← ih later]

section Requests

variable {ι : Type} [DecidableEq ι] {runtime : Runtime Infallible} {alloy : Alloy}
  {requests : Requests ι} {overlay : OverlayState} {trace : List (WorkerStep ι)}
  {state : WorkerState ι}

/-- In every state of every interleaving, the transactions of the requests on a chain from the
initial overlay all have different callers or nonces. So do those of all successful requests, if
every one of them found the overlay as it copied it. -/
theorem replay_only_across_branches (discipline : NonceDiscipline runtime.toRevm)
    (survive : ∀ chain : List ι,
      SendersSurvive runtime [] overlay (requests.batches alloy chain))
    (reaches : Reaches (requests.work runtime alloy) overlay trace state) :
    (∀ chain last, Provenance state overlay chain last →
      ((chain.flatMap requests.txs).map TxEnv.replayKey).Nodup) ∧
    (FreshStores (requests.work runtime alloy) overlay trace →
      ((state.log.flatMap requests.txs).map TxEnv.replayKey).Nodup ∧
        ∀ request, request ∈ state.log ↔ state.Succeeded request) := by
  have inv := inv_of_reaches reaches
  have on_chain : ∀ {chain : List ι} {last : OverlayState}, state.Chain overlay chain last →
      ((chain.flatMap requests.txs).map TxEnv.replayKey).Nodup := by
    intro chain last linked
    rcases run_batches_of_chain inv linked with ⟨ran, same_txs⟩
    have spent := (shadowed_nil overlay).nodup_executedTxs discipline List.nodup_nil _
      (survive chain)
    rwa [List.nil_append, executedTxs_of_run ran, same_txs] at spent
  exact ⟨fun chain last linked => on_chain (chain_of_provenance linked),
    fun fresh => ⟨on_chain (chain_of_freshStores reaches fresh), inv.mem_log⟩⟩

end Requests

section DoubleSpend

/-- The same transfer, requested twice. -/
def doubleSpend : Requests Bool where
  workerConfig := none
  request _ := mockTransfer 0x11 0x22 100 7
  net _ := offlineNetwork

theorem exists_doubleSpend_run :
    ∃ state, Reaches (doubleSpend.work (transferRuntime Keccak.hash) offlineAlloy)
      OverlayState.new overlappingTrace state ∧ state.log = [false, true] := by
  have computed : (Trace.run (step (doubleSpend.work (transferRuntime Keccak.hash) offlineAlloy))
      (start OverlayState.new) overlappingTrace).map State.log = some [false, true] := by
    decide +kernel
  exact Option.map_eq_some_iff.mp computed

/-- Two overlapping requests execute one transfer twice, and one of them is not fresh. -/
theorem replay_only_across_branches_doubleSpend :
    ∃ state, Reaches (doubleSpend.work (transferRuntime Keccak.hash) offlineAlloy)
      OverlayState.new overlappingTrace state ∧ (∀ request, state.Succeeded request) ∧
      ¬FreshStores (doubleSpend.work (transferRuntime Keccak.hash) offlineAlloy) OverlayState.new
        overlappingTrace := by
  rcases exists_doubleSpend_run with ⟨state, reaches, logged⟩
  refine ⟨state, reaches, ?_, ?_⟩
  · intro request
    rw [← (inv_of_reaches reaches).mem_log request, logged]
    cases request <;> simp
  · intro fresh
    have nodup := ((replay_only_across_branches nonceDiscipline_transferRevm
      (fun chain => sendersSurvive_transferRuntime Keccak.hash [] _ _) reaches).2 fresh).1
    rw [logged] at nodup
    revert nodup
    decide +kernel

end DoubleSpend

end Zkhood
