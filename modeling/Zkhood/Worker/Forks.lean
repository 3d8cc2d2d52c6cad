import Zkhood.Data.SnapshotHistory
import Zkhood.Worker.Interleaving

/-!
# Forks of the commitment chain

A lost update does not only drop a change: its response has been sent, and
carries the commitments of a batch which the stored overlay does not contain.
Two requests which copy the same overlay both extend the same commitment, so the
responses of a worker are a tree of commitments rather than a chain.

Every branch of the tree starts at the initial overlay, and no response refers
to a commitment which was not stored before it.
-/

namespace Zkhood

open SnapshotCell

section Responses

variable {ι : Type} {runtime : Runtime Infallible} {alloy : Alloy} {requests : Requests ι}
  {overlay : OverlayState} {state : WorkerState ι}

theorem chain_of_provenance {first last : OverlayState} {chain : List ι}
    (linked : Provenance state first chain last) : state.Chain first chain last := by
  induction chain generalizing first with
  | nil => exact linked.symm
  | cons request rest ih =>
      rcases linked with ⟨response, next, held, -, -, later⟩
      exact ⟨response, next, held, ih later⟩

variable [DecidableEq ι] {trace : List (WorkerStep ι)}

/-- In every state of every interleaving, each successful response ends a chain of responses with
linked commitments which starts at the initial overlay and in which all others were stored before
it. The responses in the order of their stores are one such chain exactly if every successful
request found the overlay as it copied it. -/
theorem responses_fork (reaches : Reaches (requests.work runtime alloy) overlay trace state) :
    (∀ request, state.Succeeded request → ∃ chain last, (chain ++ [request]).Sublist state.log ∧
      Provenance state overlay (chain ++ [request]) last) ∧
    (FreshStores (requests.work runtime alloy) overlay trace ↔
      Provenance state overlay state.log state.stored) := by
  have inv := inv_of_reaches reaches
  constructor
  · intro request succeeded
    rcases List.append_of_mem ((inv.mem_log request).mpr succeeded) with ⟨front, back, split⟩
    rcases exists_chain_of_log reaches split with
      ⟨chain, snapshot, response, next, earlier, linked, held⟩
    refine ⟨chain, next, ?_, ?_⟩
    · rw [split]
      exact earlier.append (List.singleton_sublist.mpr List.mem_cons_self)
    · exact provenance_of_chain inv (State.chain_concat.mpr ⟨snapshot, response, linked, held⟩)
  · rw [freshStores_iff_chain_log reaches]
    exact ⟨provenance_of_chain inv, chain_of_provenance⟩

end Responses

/-- A transfer writes its caller, and keeps what was written before. -/
theorem info_isSome_of_work {request : Bool} {overlay next : OverlayState}
    {response : ExecuteBatchResponse}
    (ok : twoTransfers.work (transferRuntime Keccak.hash) offlineAlloy request overlay =
      .ok (response, next))
    (written : (overlay.view 0x11).info.isSome ∨ request = false) :
    (next.view 0x11).info.isSome := by
  rcases dispatch_ok ok with ⟨base, outcomes, applied⟩
  apply info_isSome_of_transfers applied
  rcases written with before | rfl
  · exact Or.inl before
  · exact Or.inr ⟨transferTx 0x11 0x22 7 0, by simp [twoTransfers, mockTransfer], rfl⟩

/-- Both overlapping transfers extend the commitment of the fresh overlay. -/
theorem responses_fork_overlapping :
    ∃ state, runTransfers overlappingTrace = some state ∧ state.log = [false, true] ∧
      ¬FreshStores (twoTransfers.work (transferRuntime Keccak.hash) offlineAlloy)
        OverlayState.new overlappingTrace ∧
      ∀ request, ∃ chain last, Provenance state OverlayState.new (chain ++ [request]) last := by
  rcases exists_overlapping_run with ⟨state, reaches, logged, unwritten⟩
  have inv := inv_of_reaches reaches
  rcases responses_fork reaches with ⟨branches, linear⟩
  refine ⟨state, reaches, logged, ?_, ?_⟩
  · rw [linear, logged]
    rintro ⟨_, next, held, -, -, _, last, held', -, -, rfl⟩
    have first := info_isSome_of_work (inv.results false _ _ (Or.inr held)).symm (Or.inr rfl)
    have second := info_isSome_of_work (inv.results true _ _ (Or.inr held')).symm (Or.inl first)
    rw [unwritten] at second
    cases second
  · intro request
    have succeeded : state.Succeeded request :=
      (inv.mem_log request).mp (by rw [logged]; cases request <;> simp)
    rcases branches request succeeded with ⟨chain, last, -, linked⟩
    exact ⟨chain, last, linked⟩

end Zkhood
