import Zkhood.Data.SnapshotHistory
import Zkhood.Executor.Ledger
import Zkhood.Worker.Batches

/-!
# The overlays of a running worker

Whatever the interleaving, the stored overlay and every copy of it are what some
diffs make of a fresh overlay, merged one after another with the commitment of
each. So they keep the representation invariant, and a balance which an overlay
reports is the one which a batch over it reads.
-/

namespace Zkhood

open SnapshotCell

/-- The calls which persist a run of diffs. -/
def diffCalls (runtime : Runtime Infallible) (diffs : List EvmState) : List OverlayCall :=
  diffs.flatMap fun diff =>
    [.applyEvmState diff, .setCommitment (stateCommitment runtime.keccak256 diff)]

variable {ι : Type} {runtime : Runtime Infallible} {alloy : Alloy} {requests : Requests ι}

/-- What persisting some diffs makes an overlay hold is what the diffs report. -/
theorem mem_held_diffCalls (diffs : List EvmState) (address : Address) :
    address ∈ (OverlayState.new.calls (diffCalls runtime diffs)).held ↔
      ∃ diff ∈ diffs, (diff.get? address).isSome := by
  have covered := (OverlayState.wellFormed_calls (diffCalls runtime diffs)).covered address
  rw [OverlayState.mem_held, ← OverlayState.mem_accounts_iff, ← OverlayState.mem_destroyed_iff,
    covered]
  simp [Merged, diffCalls]

theorem calls_diffCalls_concat (diffs : List EvmState) (diff : EvmState) :
    OverlayState.new.calls (diffCalls runtime (diffs ++ [diff])) =
      ((OverlayState.new.calls (diffCalls runtime diffs)).applyEvmState diff).setCommitment
        (stateCommitment runtime.keccak256 diff) := by
  simp [diffCalls, OverlayState.calls, OverlayState.call]

/-- A successful request persists one more diff. -/
theorem work_replays {request : ι} {response : ExecuteBatchResponse}
    {diffs : List EvmState} {next : OverlayState}
    (ok : requests.work runtime alloy request
      (OverlayState.new.calls (diffCalls runtime diffs)) = .ok (response, next)) :
    ∃ diff, next = OverlayState.new.calls (diffCalls runtime (diffs ++ [diff])) := by
  rcases work_ok ok with ⟨batch, -, -, stepped⟩
  rcases batchStep_eq_some stepped with ⟨diff, -, rfl⟩
  exact ⟨diff, (calls_diffCalls_concat diffs diff).symm⟩

variable [DecidableEq ι] {trace : List (WorkerStep ι)} {state : WorkerState ι}

/-- In every state of every interleaving from a fresh overlay, the stored overlay and every copy
are the result of persisting some diffs in order. Over every base, a batch reads the balance which
such an overlay reports exactly for the addresses in these diffs, and the base's for all others. -/
theorem overlays_replay_diffs
    (reaches : Reaches (requests.work runtime alloy) OverlayState.new trace state)
    {overlay : OverlayState}
    (current : overlay = state.stored ∨ ∃ request, state.Holds request overlay) :
    ∃ diffs, overlay = OverlayState.new.calls (diffCalls runtime diffs) ∧
      ∀ (base : DatabaseRef Infallible) address,
        balanceIn ((overlay.layerOver base).basicRef address) =
          if ∃ diff ∈ diffs, (diff.get? address).isSome then overlay.balanceOf address
          else balanceIn (base.basicRef address) := by
  have replays := value_induction
    (fun value => ∃ diffs, value = OverlayState.new.calls (diffCalls runtime diffs))
    ⟨[], rfl⟩ (by
      rintro request _ response next ⟨diffs, rfl⟩ ok
      rcases work_replays ok with ⟨diff, extended⟩
      exact ⟨_, extended⟩) reaches
  have replayed : ∃ diffs, overlay = OverlayState.new.calls (diffCalls runtime diffs) := by
    rcases current with rfl | ⟨request, holds⟩
    · exact replays.1
    · exact replays.2 request overlay holds
  rcases replayed with ⟨diffs, rfl⟩
  refine ⟨diffs, rfl, ?_⟩
  intro base address
  rw [OverlayState.balanceIn_layerOver (OverlayState.wellFormed_calls (diffCalls runtime diffs))]
  exact if_congr (mem_held_diffCalls diffs address) rfl rfl

/-- The overlay which two overlapping transfers leave has the second caller at 95. -/
theorem overlays_replay_diffs_overlapping :
    ∃ state diffs, runTransfers overlappingTrace = some state ∧
      state.stored = OverlayState.new.calls (diffCalls (transferRuntime Keccak.hash) diffs) ∧
      ∀ base : DatabaseRef Infallible,
        balanceIn ((state.stored.layerOver base).basicRef 0x33) = 95 := by
  have computed : (runTransfers overlappingTrace).map (fun state =>
      state.stored.balanceOf 0x33) = some 95 := by
    decide +kernel
  rcases Option.map_eq_some_iff.mp computed with ⟨state, reaches, balance⟩
  rcases overlays_replay_diffs reaches (Or.inl rfl) with ⟨diffs, replayed, balances⟩
  refine ⟨state, diffs, reaches, replayed, ?_⟩
  have held : (0x33 : Address) ∈ state.stored.held := by
    rw [OverlayState.balanceOf_eq] at balance
    rw [OverlayState.mem_held]
    left
    cases shown : (state.stored.view 0x33).info with
    | none =>
        rw [shown] at balance
        cases balance
    | some info => rfl
  intro base
  rw [replayed] at held
  rw [balances, if_pos ((mem_held_diffCalls diffs 0x33).mp held), balance]

end Zkhood
