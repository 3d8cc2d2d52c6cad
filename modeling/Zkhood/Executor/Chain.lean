import Mathlib.Data.List.Forall2
import Zkhood.Executor.Transfer
import Zkhood.Overlay.IterationOrder

/-!
# What the running commitment determines

The commitment which an overlay carries is the commitment of its last batch's
diff. It chains the public values of successive batches, but nothing of the
earlier diffs is hashed into it: it determines what the last batch wrote, and
only the whole sequence of commitments determines the rollup state.
-/

namespace Zkhood

/-- Two overlays which agree on everything a diff has written. -/
def AgreeOn (diff : EvmState) (left right : OverlayState) : Prop :=
  ∀ address account, diff.get? address = some account →
    (left.view address).info = (right.view address).info ∧
    (left.view address).destroyed = (right.view address).destroyed ∧
    ∀ slot, account.isSelfdestructed ∨ (account.present? slot).isSome →
      (left.view address).slots slot = (right.view address).slots slot

/-- Distinct diffs have distinct commitments. -/
def Separated (keccak256 : Bytes → Hash) (diffs : List EvmState) : Prop :=
  ∀ left ∈ diffs, ∀ right ∈ diffs,
    stateCommitment keccak256 left = stateCommitment keccak256 right → left.Same right

variable {ε : Type}

/-- The diffs of a run of successful batches, oldest first. -/
def runDiffs (runtime : Runtime ε) (overlay : OverlayState) :
    List (Batch ε) → Option (List EvmState)
  | [] => some []
  | batch :: rest =>
      match batchDiff runtime overlay batch, batchStep runtime overlay batch with
      | some diff, some next => (runDiffs runtime next rest).map (diff :: ·)
      | _, _ => none

/-- A run of successful batches from one overlay to another, with the diffs it merged. -/
structure Run (runtime : Runtime ε) (overlay : OverlayState) (batches : List (Batch ε))
    (diffs : List EvmState) (final : OverlayState) : Prop where
  reaches : Trace.run (batchStep runtime) overlay batches = some final
  merged : runDiffs runtime overlay batches = some diffs

section Binding

variable {runtime : Runtime ε} {overlay final : OverlayState} {batches : List (Batch ε)}
  {diffs : List EvmState}

theorem Run.cons {batch : Batch ε} (run : Run runtime overlay (batch :: batches) diffs final) :
    ∃ diff rest, diffs = diff :: rest ∧
      Run runtime ((overlay.applyEvmState diff).setCommitment
        (stateCommitment runtime.keccak256 diff)) batches rest final := by
  rcases run with ⟨reaches, merged⟩
  rw [Trace.run, Option.bind_eq_some_iff] at reaches
  rcases reaches with ⟨next, stepped, later⟩
  rcases batchStep_eq_some stepped with ⟨diff, batch_diff, rfl⟩
  rw [runDiffs, batch_diff, stepped] at merged
  simp only [Option.map_eq_some_iff] at merged
  rcases merged with ⟨rest, rest_merged, rfl⟩
  exact ⟨diff, rest, rfl, later, rest_merged⟩

/-- After a run, the view of an address has seen the diffs one after another. -/
theorem Run.view_eq (run : Run runtime overlay batches diffs final) (address : Address) :
    final.view address =
      diffs.foldl (fun view diff => diff.updateView address view) (overlay.view address) := by
  induction batches generalizing overlay diffs with
  | nil =>
      rcases run with ⟨⟨⟩, ⟨⟩⟩
      rfl
  | cons batch rest ih =>
      rcases run.cons with ⟨diff, later, rfl, tail_run⟩
      rw [ih tail_run, OverlayState.view_setCommitment, OverlayState.view_applyEvmState]
      rfl

/-- The running commitment is that of the last diff. -/
theorem Run.commitment_eq (front : List EvmState) (last : EvmState)
    (run : Run runtime overlay batches (front ++ [last]) final) :
    final.commitment = stateCommitment runtime.keccak256 last := by
  induction batches generalizing overlay front with
  | nil =>
      have merged := run.merged
      simp [runDiffs] at merged
  | cons batch rest ih =>
      rcases run.cons with ⟨diff, later, split, tail_run⟩
      cases front with
      | nil =>
          cases split
          cases rest with
          | nil =>
              cases tail_run.reaches
              rfl
          | cons other others =>
              rcases tail_run.cons with ⟨_, _, impossible, -⟩
              cases impossible
      | cons first front =>
          cases split
          exact ih _ tail_run

theorem foldl_updateView_eq {left right : List EvmState}
    (same : List.Forall₂ EvmState.Same left right) (address : Address) (view : AddressView) :
    left.foldl (fun view diff => diff.updateView address view) view =
      right.foldl (fun view diff => diff.updateView address view) view := by
  induction same generalizing view with
  | nil => rfl
  | cons head tail ih =>
      rw [List.foldl_cons, List.foldl_cons, head.updateView_eq, ih]

/-- Diffs whose commitments agree are the same, where the hash separates them. -/
theorem forall₂_same_of_commitments_eq {commitment : EvmState → Hash} {left right : List EvmState}
    (separated : ∀ diff ∈ left, ∀ other ∈ right,
      commitment diff = commitment other → diff.Same other)
    (commitments : left.map commitment = right.map commitment) :
    List.Forall₂ EvmState.Same left right := by
  induction left generalizing right with
  | nil => simp_all
  | cons diff rest ih =>
      cases right with
      | nil => simp at commitments
      | cons other others =>
          rw [List.map_cons, List.map_cons, List.cons.injEq] at commitments
          refine .cons (separated diff (by simp) other (by simp) commitments.1)
            (ih ?_ commitments.2)
          intro later later_mem second second_mem
          exact separated later (List.mem_cons_of_mem _ later_mem) second
            (List.mem_cons_of_mem _ second_mem)

/-- What an entry writes does not depend on the view it is merged into. -/
theorem mergeView_written (account : Account) (view other : AddressView) :
    (account.mergeView view).info = (account.mergeView other).info ∧
      (account.mergeView view).destroyed = (account.mergeView other).destroyed ∧
      ∀ slot, account.isSelfdestructed ∨ (account.present? slot).isSome →
        (account.mergeView view).slots slot = (account.mergeView other).slots slot := by
  by_cases dead : account.isSelfdestructed
  · simp [Account.mergeView, dead]
  · refine ⟨by simp [Account.mergeView, dead], by simp [Account.mergeView, dead], ?_⟩
    rintro slot (destroyed | written)
    · exact absurd destroyed dead
    · rcases Option.isSome_iff_exists.mp written with ⟨value, held⟩
      simp [Account.mergeView, dead, held]

end Binding

/-- The commitment determines the rollup state of a run from a fresh overlay. -/
def CommitmentBindsState (runtime : Runtime ε) : Prop :=
  ∀ (batches batches' : List (Batch ε)) (diffs diffs' : List EvmState)
    (final final' : OverlayState), batches ≠ [] → batches' ≠ [] →
    Run runtime OverlayState.new batches diffs final →
    Run runtime OverlayState.new batches' diffs' final' →
    Separated runtime.keccak256 (diffs ++ diffs') →
    final.commitment = final'.commitment → SameRollupState final final'

/-- Of two runs whose diffs are separated, equal final commitments determine what the last batch
wrote, and equal sequences of commitments determine the rollup state. -/
theorem commitments_bind_state (runtime : Runtime ε) {batches batches' : List (Batch ε)}
    {diffs diffs' : List EvmState} {final final' : OverlayState}
    (run : Run runtime OverlayState.new batches diffs final)
    (run' : Run runtime OverlayState.new batches' diffs' final')
    (separated : Separated runtime.keccak256 (diffs ++ diffs')) :
    (∀ front front' last last', diffs = front ++ [last] → diffs' = front' ++ [last'] →
      final.commitment = final'.commitment → last.Same last' ∧ AgreeOn last final final') ∧
    (diffs.map (stateCommitment runtime.keccak256) =
        diffs'.map (stateCommitment runtime.keccak256) → SameRollupState final final') := by
  constructor
  · rintro front front' last last' rfl rfl commitments
    rw [run.commitment_eq front last, run'.commitment_eq front' last'] at commitments
    have same := separated last (by simp) last' (by simp) commitments
    refine ⟨same, ?_⟩
    intro address account held
    have views : ∀ view, last.updateView address view = account.mergeView view := by
      intro view
      rw [EvmState.updateView, held]
      rfl
    rw [run.view_eq, run'.view_eq, List.foldl_append, List.foldl_append]
    simp only [List.foldl_cons, List.foldl_nil, ← same.updateView_eq, views]
    exact mergeView_written account _ _
  · intro commitments
    have same : List.Forall₂ EvmState.Same diffs diffs' :=
      forall₂_same_of_commitments_eq
        (fun left left_mem right right_mem => separated left (List.mem_append_left _ left_mem)
          right (List.mem_append_right _ right_mem)) commitments
    rw [sameRollupState_iff]
    intro address
    rw [run.view_eq, run'.view_eq, foldl_updateView_eq same]

theorem separated_of_ne {keccak256 : Bytes → Hash} {first second : EvmState}
    (apart : stateCommitment keccak256 first ≠ stateCommitment keccak256 second) :
    Separated keccak256 ([second] ++ [first, second]) := by
  intro left left_mem right right_mem commitments
  simp only [List.cons_append, List.nil_append, List.mem_cons, List.not_mem_nil, or_false]
    at left_mem right_mem
  have either : ∀ diff, diff = second ∨ diff = first ∨ diff = second →
      diff = first ∨ diff = second := by tauto
  rcases either left left_mem with rfl | rfl <;> rcases either right right_mem with rfl | rfl
  · exact EvmState.Same.refl _
  · exact absurd commitments apart
  · exact absurd commitments.symm apart
  · exact EvmState.Same.refl _

section LastDiff

/-- A batch of one transfer, over a base which funds the caller. -/
def transferBatch (caller target : Address) (value : U256) : Batch Infallible where
  base := (fundedProvider [(caller, 100)]).databaseRef
  ctx := testnetContext
  txs := [transferTx caller target value 0]

/-- An account as a transfer leaves it in the journal. -/
def touchedAccount (balance : U256) (nonce : U64) : Account where
  info := AccountInfo.new balance nonce keccakEmpty Bytecode.default
  status := { created := false, selfDestructed := false, touched := true }
  storage := IterMap.empty

/-- The changes of this batch. -/
def transferDiff (caller target : Address) (value : U256) : EvmState :=
  IterMap.ofList [(0, touchedAccount 0 0), (target, touchedAccount value 0),
    (caller, touchedAccount (100 - value) 1)]

theorem run_of_isSome {runtime : Runtime ε} {overlay : OverlayState} {batches : List (Batch ε)}
    {diffs : List EvmState} (merged : runDiffs runtime overlay batches = some diffs)
    (succeeds : (Trace.run (batchStep runtime) overlay batches).isSome) :
    ∃ final, Run runtime overlay batches diffs final := by
  rcases Option.isSome_iff_exists.mp succeeds with ⟨final, reaches⟩
  exact ⟨final, reaches, merged⟩

theorem shortRun : ∃ final, Run (transferRuntime Keccak.hash) OverlayState.new
    [transferBatch 0x11 0x22 7] [transferDiff 0x11 0x22 7] final :=
  run_of_isSome (by decide +kernel) (by decide +kernel)

theorem longRun : ∃ final, Run (transferRuntime Keccak.hash) OverlayState.new
    [transferBatch 0x33 0x44 5, transferBatch 0x11 0x22 7]
    [transferDiff 0x33 0x44 5, transferDiff 0x11 0x22 7] final :=
  run_of_isSome (by decide +kernel) (by decide +kernel)

theorem separated_transferDiffs :
    Separated Keccak.hash
      ([transferDiff 0x11 0x22 7] ++ [transferDiff 0x33 0x44 5, transferDiff 0x11 0x22 7]) :=
  separated_of_ne (by decide +kernel)

/-- Runs which end with the same batch have the same commitment, whatever was written before. -/
theorem not_commitmentBindsState_transferRuntime :
    ¬CommitmentBindsState (transferRuntime Keccak.hash) := by
  intro binds
  rcases shortRun with ⟨final, short⟩
  rcases longRun with ⟨final', long⟩
  have commitments : final.commitment = final'.commitment := by
    rw [short.commitment_eq [], long.commitment_eq [_]]
  have same := binds _ _ _ _ _ _ (by simp) (by simp) short long separated_transferDiffs commitments
  have views := congrArg AddressView.info (sameRollupState_iff.mp same 0x33)
  rw [short.view_eq, long.view_eq, OverlayState.view_new] at views
  revert views
  decide +kernel

/-- The two runs of the transfer EVM agree on what their last batch wrote. -/
theorem commitments_bind_state_transferRuntime :
    ∃ final final',
      Run (transferRuntime Keccak.hash) OverlayState.new [transferBatch 0x11 0x22 7]
        [transferDiff 0x11 0x22 7] final ∧
      Run (transferRuntime Keccak.hash) OverlayState.new
        [transferBatch 0x33 0x44 5, transferBatch 0x11 0x22 7]
        [transferDiff 0x33 0x44 5, transferDiff 0x11 0x22 7] final' ∧
      AgreeOn (transferDiff 0x11 0x22 7) final final' := by
  rcases shortRun with ⟨final, short⟩
  rcases longRun with ⟨final', long⟩
  have commitments : final.commitment = final'.commitment := by
    rw [short.commitment_eq [], long.commitment_eq [_]]
  have bound := (commitments_bind_state (transferRuntime Keccak.hash) short long
    separated_transferDiffs).1 [] [_] _ _ rfl rfl commitments
  exact ⟨final, final', short, long, bound.2⟩

end LastDiff

end Zkhood
