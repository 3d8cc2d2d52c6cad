import Zkhood.Worker.Batches

/-!
# Mock states on a verified worker

A worker which is configured for verified state still executes a request with a
mock state against that mock state, and stores the result in the overlay which
its verified requests read. So a mock state can change every later response.

It can do so only through its own request: two sequences of requests which
differ in their mock states are handled alike for as long as the mock states
answer alike below the overlay which is stored when their requests come. And it
can do so only through what REVM reports: the worker merges the reported
changes and nothing else, so a balance which a mock state asserts stays out of
the overlay unless REVM reports the account.
-/

namespace Zkhood

/-- The requests are equal, except that their mock states may have different contents. -/
structure SameButMockState (left right : ExecuteBatchRequest) : Prop where
  ctx : left.ctx = right.ctx
  txs : left.txs = right.txs
  accessList : left.accessList = right.accessList
  mockState : left.mockState.isSome = right.mockState.isSome

/-- A request, with the servers as they answer it. -/
abbrev Served := Network × ExecuteBatchRequest

/-- The same servers, and requests which differ at most in their mock states. -/
def SameServed (left right : Served) : Prop :=
  left.1 = right.1 ∧ SameButMockState left.2 right.2

/-- Below an overlay, no query tells the mock states of the requests apart. -/
def MockStatesAgree (overlay : OverlayState) (left right : ExecuteBatchRequest) : Prop :=
  ∀ base ∈ left.mockState, ∀ base' ∈ right.mockState,
    overlay.layerOver base.databaseRef = overlay.layerOver base'.databaseRef

section Sequences

variable (runtime : Runtime Infallible) (alloy : Alloy)

/-- Each response and the overlay stored after it, when requests are handled one at a time. -/
def handleAll (state : AppState) : List Served → List (HttpResponse × OverlayState)
  | [] => []
  | served :: rest =>
      let (state, response) := executeBatchHandler runtime alloy state served.1 served.2
      (response, state.overlay) :: handleAll state rest

/-- The changes which REVM reports for a request, if its batch succeeds. -/
def reported (state : AppState) (served : Served) : Option EvmState :=
  (baseState alloy state.workerConfig served.1 served.2).toOption.bind fun base =>
    batchDiff runtime state.overlay ⟨base.databaseRef, served.2.ctx, served.2.txs⟩

/-- The changes which REVM reports for the successful requests, when requests are handled one at a
time. -/
def reports (state : AppState) : List Served → List EvmState
  | [] => []
  | served :: rest => (reported runtime alloy state served).toList ++
      reports (executeBatchHandler runtime alloy state served.1 served.2).1 rest

/-- The mock states agree below the overlay stored when each pair of requests is handled. -/
def MockStatesAgreeAlong (state : AppState) : List Served → List Served → Prop
  | left :: lefts, right :: rights =>
      MockStatesAgree state.overlay left.2 right.2 ∧
        MockStatesAgreeAlong (executeBatchHandler runtime alloy state left.1 left.2).1 lefts rights
  | _, _ => True

variable {runtime alloy}

/-- Mock states which agree outside the overlay lead to the same result. -/
theorem executeBatchHandler_congr (runtime : Runtime Infallible) (alloy : Alloy)
    {state : AppState} (net : Network) {left right : ExecuteBatchRequest}
    (same : SameButMockState left right)
    (agree : MockStatesAgree state.overlay left right) :
    executeBatchHandler runtime alloy state net left =
      executeBatchHandler runtime alloy state net right := by
  suffices dispatched : dispatch runtime alloy state.workerConfig net left state.overlay =
      dispatch runtime alloy state.workerConfig net right state.overlay by
    simp only [executeBatchHandler, dispatched]
  have mocked : executeBatchMock runtime left state.overlay =
      executeBatchMock runtime right state.overlay := by
    have present := same.mockState
    simp only [executeBatchMock]
    cases left_mock : left.mockState with
    | none =>
        rw [left_mock, Option.isSome_none, eq_comm, Option.isSome_eq_false_iff,
          Option.isNone_iff_eq_none] at present
        rw [present]
    | some base =>
        rw [left_mock, Option.isSome_some, eq_comm, Option.isSome_iff_exists] at present
        rcases present with ⟨base', right_mock⟩
        rw [right_mock, ← same.ctx, ← same.txs]
        exact run_congr runtime (agree base left_mock base' right_mock) _ _
  unfold dispatch
  rw [same.mockState, mocked]
  simp only [executeBatchVerified, same.ctx, same.txs, same.accessList]

/-- For as long as the mock states agree below the stored overlays, the responses and the overlays
are the same. -/
theorem handleAll_eq_of_mockStatesAgreeAlong {state : AppState} {left right : List Served}
    (same : List.Forall₂ SameServed left right) (n : ℕ)
    (agree : MockStatesAgreeAlong runtime alloy state (left.take n) (right.take n)) :
    (handleAll runtime alloy state left).take n =
      (handleAll runtime alloy state right).take n := by
  induction same generalizing state n with
  | nil => rfl
  | cons head tail ih =>
      rename_i first second lefts rights
      cases n with
      | zero => rfl
      | succ n =>
          rcases agree with ⟨here, later⟩
          rcases head with ⟨servers, requests⟩
          have handled := executeBatchHandler_congr runtime alloy first.1 requests here
          rw [handleAll, handleAll, ← servers, ← handled, List.take_succ_cons, List.take_succ_cons,
            ih n later]

/-- A request merges what REVM reports for it into the overlay. -/
theorem overlay_executeBatchHandler (state : AppState) (served : Served) :
    let next := (executeBatchHandler runtime alloy state served.1 served.2).1.overlay
    let merged := state.overlay.applyEvmStates (reported runtime alloy state served).toList
    next.view = merged.view ∧ next.code = merged.code := by
  rcases served with ⟨net, req⟩
  simp only [executeBatchHandler, reported, dispatch_eq]
  cases baseState alloy state.workerConfig net req with
  | error failure => exact ⟨rfl, rfl⟩
  | ok base =>
      have applied := @applyBatchWithOverlay_eq runtime base.databaseRef state.overlay req.ctx
        req.txs
      simp only [Except.toOption, Option.bind_some, bind, Except.bind, run]
      cases executed : batchDiff runtime state.overlay ⟨base.databaseRef, req.ctx, req.txs⟩ with
      | none =>
          rw [executed] at applied
          rcases applied with ⟨failure, failed⟩
          rw [failed]
          exact ⟨rfl, rfl⟩
      | some diff =>
          rw [executed] at applied
          rcases applied with ⟨outcomes, succeeded⟩
          rw [succeeded]
          exact ⟨rfl, rfl⟩

/-- What is stored after each request is the initial overlay with the reported changes merged into
it, in their order. -/
theorem handleAll_merges_reports {state : AppState} {served : List Served} {n : ℕ}
    {response : HttpResponse} {stored : OverlayState}
    (handled : (handleAll runtime alloy state served)[n]? = some (response, stored)) :
    let merged := state.overlay.applyEvmStates (reports runtime alloy state (served.take (n + 1)))
    stored.view = merged.view ∧ stored.code = merged.code := by
  induction served generalizing state n with
  | nil => cases handled
  | cons first rest ih =>
      have step := @overlay_executeBatchHandler runtime alloy state first
      rw [handleAll] at handled
      rw [List.take_succ_cons, reports]
      cases n with
      | zero =>
          cases handled
          rw [List.take_zero, reports, List.append_nil]
          exact step
      | succ n =>
          rw [List.getElem?_cons_succ] at handled
          rcases ih handled with ⟨views, codes⟩
          have split : ∀ front back, state.overlay.applyEvmStates (front ++ back) =
              (state.overlay.applyEvmStates front).applyEvmStates back :=
            fun front back => List.foldl_append
          rw [split, views, codes]
          refine ⟨?_, ?_⟩
          · funext address
            rw [OverlayState.view_applyEvmStates, OverlayState.view_applyEvmStates, step.1]
          · rw [OverlayState.code_applyEvmStates, OverlayState.code_applyEvmStates, step.2]

/-- Whatever the mock states assert, what REVM does not report stays as it was. -/
theorem handleAll_frame {state : AppState} {served : List Served} {n : ℕ}
    {response : HttpResponse} {stored : OverlayState}
    (handled : (handleAll runtime alloy state served)[n]? = some (response, stored)) :
    let diffs := reports runtime alloy state (served.take (n + 1))
    (∀ address, (∀ diff ∈ diffs, diff.get? address = none) →
      stored.view address = state.overlay.view address) ∧
    ∀ codeHash, (∀ code, (codeHash, code) ∉ codeWrites diffs) →
      stored.code[codeHash]? = state.overlay.code[codeHash]? := by
  rcases handleAll_merges_reports handled with ⟨views, codes⟩
  constructor
  · intro address unreported
    have untouched : history (reports runtime alloy state (served.take (n + 1))) address = [] :=
      List.filterMap_eq_nil_iff.mpr unreported
    rw [views, OverlayState.view_applyEvmStates, untouched, AddressView.mergeAll_nil]
  · intro codeHash unwritten
    rw [codes, OverlayState.code_applyEvmStates]
    exact HashMap.getElem?_insertMany_of_unwritten _ unwritten

/-- On a verified worker, for as long as the mock states agree below the stored overlays, the
responses and the overlays are the same. Whatever the mock states assert, an address which REVM
reports in no batch of the run keeps what the overlay had about it, and a code hash under which it
reports no code keeps its code. -/
theorem mockStates_enter_by_reports (runtime : Runtime Infallible) (alloy : Alloy)
    (cfg : WorkerConfig) (overlay : OverlayState) :
    (∀ (left right : List Served) (n : ℕ), List.Forall₂ SameServed left right →
      MockStatesAgreeAlong runtime alloy ⟨overlay, some cfg⟩ (left.take n) (right.take n) →
      (handleAll runtime alloy ⟨overlay, some cfg⟩ left).take n =
        (handleAll runtime alloy ⟨overlay, some cfg⟩ right).take n) ∧
    ∀ (served : List Served) (n : ℕ) (response : HttpResponse) (stored : OverlayState),
      (handleAll runtime alloy ⟨overlay, some cfg⟩ served)[n]? = some (response, stored) →
      let diffs := reports runtime alloy ⟨overlay, some cfg⟩ (served.take (n + 1))
      (∀ address, (∀ diff ∈ diffs, diff.get? address = none) →
        stored.view address = overlay.view address) ∧
      ∀ codeHash, (∀ code, (codeHash, code) ∉ codeWrites diffs) →
        stored.code[codeHash]? = overlay.code[codeHash]? :=
  ⟨fun _ _ n same agree => handleAll_eq_of_mockStatesAgreeAlong same n agree,
    fun _ _ _ _ handled => handleAll_frame handled⟩

end Sequences

section MockBalances

/-- A transfer, and a second one whose caller asserts a balance. -/
def assertingBalance (balance : U256) : List Served :=
  [(offlineNetwork, mockTransfer 0x33 0x44 100 5),
    (offlineNetwork, mockTransfer 0x11 0x22 balance 7)]

theorem sameServed_assertingBalance (balance other : U256) :
    List.Forall₂ SameServed (assertingBalance balance) (assertingBalance other) := by
  refine .cons ⟨rfl, ⟨rfl, rfl, rfl, rfl⟩⟩ (.cons ⟨rfl, ⟨rfl, rfl, rfl, rfl⟩⟩ .nil)

/-- A transfer whose mock state also asserts the balance of an account which takes no part. -/
def idleBalance : List Served :=
  [(offlineNetwork, { mockTransfer 0x11 0x22 100 7 with
    mockState := some (fundedProvider [(0x11, 100), (0x55, 1000)]) })]

/-- The sequences agree up to the request which asserts a balance, and the balance of an account
which takes no part is not stored. -/
theorem mockStates_enter_by_reports_transferRuntime :
    (handleAll (transferRuntime Keccak.hash) offlineAlloy ⟨OverlayState.new, some .testnet⟩
      (assertingBalance 100)).take 1 =
    (handleAll (transferRuntime Keccak.hash) offlineAlloy ⟨OverlayState.new, some .testnet⟩
      (assertingBalance 200)).take 1 ∧
    ∃ response stored,
      (handleAll (transferRuntime Keccak.hash) offlineAlloy ⟨OverlayState.new, some .testnet⟩
        idleBalance)[0]? = some (response, stored) ∧
      stored.view 0x55 = AddressView.untouched := by
  have isolated := mockStates_enter_by_reports (transferRuntime Keccak.hash) offlineAlloy .testnet
    OverlayState.new
  constructor
  · refine isolated.1 _ _ 1 (sameServed_assertingBalance 100 200) ⟨?_, trivial⟩
    intro base held base' held'
    rw [Option.mem_unique held held']
  · refine ⟨_, _, rfl, ?_⟩
    rw [(isolated.2 idleBalance 0 _ _ rfl).1 0x55 (by decide +kernel)]
    exact OverlayState.view_new 0x55

/-- The responses and overlays of a verified worker do not depend on mock states. -/
def IsolatedFromMockState (runtime : Runtime Infallible) (alloy : Alloy) : Prop :=
  ∀ (cfg : WorkerConfig) (overlay : OverlayState) (left right : List Served),
    List.Forall₂ SameServed left right →
      handleAll runtime alloy ⟨overlay, some cfg⟩ left =
        handleAll runtime alloy ⟨overlay, some cfg⟩ right

/-- What is left of an asserted balance enters the stored overlay. -/
theorem not_isolatedFromMockState_transferRuntime :
    ¬IsolatedFromMockState (transferRuntime Keccak.hash) offlineAlloy := by
  intro isolated
  have same := isolated .testnet OverlayState.new _ _ (sameServed_assertingBalance 100 200)
  have balances := congrArg (List.map fun handled => handled.2.balanceOf 0x11) same
  revert balances
  decide +kernel

end MockBalances

end Zkhood
