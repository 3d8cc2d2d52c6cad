import Zkhood.Bridge.L2State
import Zkhood.Data.Tiling

/-!
# The scan for the event of an assertion

`scanFilters` are the queries which the loop of `fetchAssertionCreated` makes.
Their windows tile the blocks from the chain tip down to the last window: each
one ends right below the one before, none is empty or longer than `LOG_WINDOW`,
and none reaches below the deploy block. The scan stops at the first window with
a log, or at the deploy block.
-/

namespace Zkhood

/-- The filters of the queries which the loop makes, from the window which ends at `toBlock`. -/
def scanFilters (provider : L1Rpc) (rollupAddress : Address) (assertionHash : B256)
    (deployBlock toBlock : U64) : List Filter :=
  let fromBlock := windowStart toBlock deployBlock
  let filter := { address := rollupAddress, topic1 := assertionHash, fromBlock, toBlock }
  match provider.getLogs filter with
  | .ok [] =>
      if windowStart toBlock deployBlock ≤ deployBlock then [filter]
      else filter ::
        scanFilters provider rollupAddress assertionHash deployBlock (fromBlock - 1)
  | _ => [filter]
termination_by toBlock.toNat
decreasing_by exact windowStart_sub_one_lt ‹_›

/-- What the loop returns for the answer to its last query. -/
def scanReport (alloy : Alloy) (assertionHash : B256) (deployBlock latest : U64) :
    Except String (List Log) → Except String (B256 × AssertionState × B256)
  | .error e => .error e
  | .ok [] => .error (noLogFound assertionHash deployBlock latest)
  | .ok (log :: _) =>
      match alloy.decodeLog log with
      | .error e => .error ("failed to decode AssertionCreated log: " ++ e)
      | .ok decoded =>
          .ok (decoded.parentAssertionHash, decoded.assertion.afterState,
            decoded.afterInboxBatchAcc)

/-- The provider answers every window with exactly the given logs in it. -/
def L1Rpc.Answers (provider : L1Rpc) (rollupAddress : Address) (assertionHash : B256)
    (logs : List (U64 × Log)) : Prop :=
  ∀ fromBlock toBlock : U64, fromBlock ≤ toBlock → ∃ answer,
    provider.getLogs { address := rollupAddress, topic1 := assertionHash, fromBlock, toBlock } =
      .ok answer ∧
    answer.Perm ((logs.filter fun entry => fromBlock ≤ entry.1 ∧ entry.1 ≤ toBlock).map Prod.snd)

/-- The queries scan down from the chain tip for the event of one assertion: their windows are
contiguous and disjoint, none is empty, longer than `LOG_WINDOW` or below the deploy block. -/
structure ScansDown (rollupAddress : Address) (assertionHash : B256) (deployBlock latest : U64)
    (filters : List Filter) : Prop where
  asks : ∀ filter ∈ filters, filter.address = rollupAddress ∧ filter.topic1 = assertionHash
  starts : filters.head?.map Filter.toBlock = some latest
  contiguous : filters.IsChain fun higher later =>
    later.toBlock.toNat + 1 = higher.fromBlock.toNat
  disjoint : filters.Pairwise fun higher later => later.toBlock < higher.fromBlock
  nonempty : ∀ filter ∈ filters, filter.fromBlock ≤ filter.toBlock
  short : ∀ filter ∈ filters,
    filter.toBlock.toNat - filter.fromBlock.toNat + 1 ≤ LOG_WINDOW.toNat
  floor : ∀ filter ∈ filters, deployBlock ≤ filter.fromBlock
  ceiling : ∀ filter ∈ filters, filter.toBlock ≤ latest

variable {provider : L1Rpc} {rollupAddress : Address} {assertionHash : B256}
  {deployBlock latest toBlock : U64}

/-- A window is inside the range, not empty and not too long. -/
theorem windowStart_bounds (above : deployBlock ≤ toBlock) :
    deployBlock.toNat ≤ (windowStart toBlock deployBlock).toNat ∧
      (windowStart toBlock deployBlock).toNat ≤ toBlock.toNat ∧
      toBlock.toNat < (windowStart toBlock deployBlock).toNat + LOG_WINDOW.toNat := by
  have start := toNat_windowStart toBlock deployBlock
  have width : LOG_WINDOW.toNat = 45000 := rfl
  rw [BitVec.le_def] at above
  omega

/-- The windows of the queries tile the blocks from `toBlock` down; if no query returns a log
then they do so down to the deploy block. -/
theorem scanFilters_descends (above : deployBlock ≤ toBlock) :
    ∃ bottom, Tiling.Descends (fun filter : Filter => filter.fromBlock.toNat)
        (fun filter => filter.toBlock.toNat) LOG_WINDOW.toNat toBlock.toNat
        (scanFilters provider rollupAddress assertionHash deployBlock toBlock) bottom ∧
      deployBlock.toNat ≤ bottom ∧
      ((∀ filter ∈ scanFilters provider rollupAddress assertionHash deployBlock toBlock,
        provider.getLogs filter = .ok []) → bottom = deployBlock.toNat) := by
  fun_induction scanFilters provider rollupAddress assertionHash deployBlock toBlock with
  | case1 toBlock fromBlock filter unanswered reached =>
      have bounds := windowStart_bounds above
      rw [BitVec.le_def] at reached
      exact ⟨fromBlock.toNat, .last filter bounds.2.1 bounds.2.2, bounds.1,
        fun _ => Nat.le_antisymm reached bounds.1⟩
  | case2 toBlock fromBlock filter unanswered next ih =>
      have bounds := windowStart_bounds above
      rcases toNat_windowStart_sub_one next with ⟨adjacent, floor⟩
      rcases ih floor with ⟨bottom, later, bottom_le, lowest⟩
      refine ⟨bottom, .cons filter bounds.2.1 bounds.2.2 adjacent later, bottom_le, ?_⟩
      intro silent
      exact lowest fun filter filter_mem => silent filter (List.mem_cons_of_mem _ filter_mem)
  | case3 toBlock fromBlock filter answered =>
      have bounds := windowStart_bounds above
      refine ⟨fromBlock.toNat, .last filter bounds.2.1 bounds.2.2, bounds.1, ?_⟩
      intro silent
      exact (answered (silent filter (List.mem_singleton_self filter))).elim

/-- The loop goes on below a window without a log, unless it has reached the deploy block. -/
theorem scanWindows_of_next (alloy : Alloy)
    (silent : provider.getLogs ⟨rollupAddress, assertionHash, windowStart toBlock deployBlock,
      toBlock⟩ = .ok [])
    (next : ¬windowStart toBlock deployBlock ≤ deployBlock) :
    scanWindows alloy provider rollupAddress assertionHash deployBlock latest toBlock =
      scanWindows alloy provider rollupAddress assertionHash deployBlock latest
        (windowStart toBlock deployBlock - 1) := by
  rw [scanWindows, silent]
  exact if_neg next

/-- The loop stops at a window with a log or an error, and at the deploy block. -/
theorem scanWindows_of_stop (alloy : Alloy)
    (stop : provider.getLogs ⟨rollupAddress, assertionHash, windowStart toBlock deployBlock,
      toBlock⟩ = .ok [] → windowStart toBlock deployBlock ≤ deployBlock) :
    scanWindows alloy provider rollupAddress assertionHash deployBlock latest toBlock =
      scanReport alloy assertionHash deployBlock latest (provider.getLogs
        ⟨rollupAddress, assertionHash, windowStart toBlock deployBlock, toBlock⟩) := by
  rw [scanWindows]
  cases answer : provider.getLogs
      ⟨rollupAddress, assertionHash, windowStart toBlock deployBlock, toBlock⟩ with
  | error e => rfl
  | ok logs =>
      cases logs with
      | nil => exact if_pos (stop answer)
      | cons log rest => rfl

/-- All queries but the last are answered with no log, and the result is about the last one. -/
theorem scanFilters_eq_concat (alloy : Alloy) :
    ∃ higher last,
      scanFilters provider rollupAddress assertionHash deployBlock toBlock = higher ++ [last] ∧
      (∀ filter ∈ higher, provider.getLogs filter = .ok []) ∧
      scanWindows alloy provider rollupAddress assertionHash deployBlock latest toBlock =
        scanReport alloy assertionHash deployBlock latest (provider.getLogs last) := by
  fun_induction scanFilters provider rollupAddress assertionHash deployBlock toBlock with
  | case1 toBlock fromBlock filter silent reached =>
      exact ⟨[], filter, (List.nil_append _).symm, List.forall_mem_nil _,
        scanWindows_of_stop alloy fun _ => reached⟩
  | case2 toBlock fromBlock filter silent next ih =>
      rcases ih with ⟨higher, last, split, all_silent, report⟩
      exact ⟨filter :: higher, last, by rw [split, List.cons_append],
        List.forall_mem_cons.mpr ⟨silent, all_silent⟩,
        (scanWindows_of_next alloy silent next).trans report⟩
  | case3 toBlock fromBlock filter answered =>
      exact ⟨[], filter, (List.nil_append _).symm, List.forall_mem_nil _,
        scanWindows_of_stop alloy fun silent => (answered silent).elim⟩

/-- The queries go on below a window without a log, unless it has reached the deploy block. -/
theorem scanFilters_of_next
    (silent : provider.getLogs ⟨rollupAddress, assertionHash, windowStart toBlock deployBlock,
      toBlock⟩ = .ok [])
    (next : ¬windowStart toBlock deployBlock ≤ deployBlock) :
    scanFilters provider rollupAddress assertionHash deployBlock toBlock =
      ⟨rollupAddress, assertionHash, windowStart toBlock deployBlock, toBlock⟩ ::
        scanFilters provider rollupAddress assertionHash deployBlock
          (windowStart toBlock deployBlock - 1) := by
  rw [scanFilters, silent]
  exact if_neg next

theorem scanFilters_of_stop
    (stop : provider.getLogs ⟨rollupAddress, assertionHash, windowStart toBlock deployBlock,
      toBlock⟩ = .ok [] → windowStart toBlock deployBlock ≤ deployBlock) :
    scanFilters provider rollupAddress assertionHash deployBlock toBlock =
      [⟨rollupAddress, assertionHash, windowStart toBlock deployBlock, toBlock⟩] := by
  rw [scanFilters]
  cases answer : provider.getLogs
      ⟨rollupAddress, assertionHash, windowStart toBlock deployBlock, toBlock⟩ with
  | error e => rfl
  | ok logs =>
      cases logs with
      | nil => exact if_pos (stop answer)
      | cons log rest => rfl

/-- The loop depends on the answers to these queries and on no others: a provider which agrees on
them gets the same queries, and the scan has the same result. -/
theorem scan_congr (alloy : Alloy) {other : L1Rpc}
    (agree : ∀ filter ∈ scanFilters provider rollupAddress assertionHash deployBlock toBlock,
      other.getLogs filter = provider.getLogs filter) :
    scanFilters other rollupAddress assertionHash deployBlock toBlock =
        scanFilters provider rollupAddress assertionHash deployBlock toBlock ∧
      scanWindows alloy other rollupAddress assertionHash deployBlock latest toBlock =
        scanWindows alloy provider rollupAddress assertionHash deployBlock latest toBlock := by
  fun_induction scanFilters provider rollupAddress assertionHash deployBlock toBlock with
  | case1 toBlock fromBlock filter silent reached =>
      have answer := List.forall_mem_singleton.mp agree
      refine ⟨scanFilters_of_stop fun _ => reached, ?_⟩
      rw [scanWindows_of_stop alloy fun _ => reached, scanWindows_of_stop alloy fun _ => reached]
      exact congrArg _ answer
  | case2 toBlock fromBlock filter silent next ih =>
      rcases List.forall_mem_cons.mp agree with ⟨answer, later⟩
      rcases ih later with ⟨queries, result⟩
      rw [scanFilters_of_next (answer.trans silent) next, scanWindows_of_next alloy silent next,
        scanWindows_of_next alloy (answer.trans silent) next]
      exact ⟨congrArg _ queries, result⟩
  | case3 toBlock fromBlock filter answered =>
      have answer := List.forall_mem_singleton.mp agree
      refine ⟨scanFilters_of_stop fun silent => (answered (answer.symm.trans silent)).elim, ?_⟩
      rw [scanWindows_of_stop alloy fun silent => (answered silent).elim,
        scanWindows_of_stop alloy fun silent => (answered (answer.symm.trans silent)).elim]
      exact congrArg _ answer

theorem scanFilters_asks : ∀ filter ∈
    scanFilters provider rollupAddress assertionHash deployBlock toBlock,
      filter.address = rollupAddress ∧ filter.topic1 = assertionHash := by
  fun_induction scanFilters provider rollupAddress assertionHash deployBlock toBlock with
  | case1 toBlock fromBlock filter unanswered reached =>
      exact List.forall_mem_singleton.mpr ⟨rfl, rfl⟩
  | case2 toBlock fromBlock filter unanswered next ih =>
      exact List.forall_mem_cons.mpr ⟨⟨rfl, rfl⟩, ih⟩
  | case3 toBlock fromBlock filter answered =>
      exact List.forall_mem_singleton.mpr ⟨rfl, rfl⟩

theorem scansDown_scanFilters (floor : deployBlock ≤ latest) :
    ScansDown rollupAddress assertionHash deployBlock latest
      (scanFilters provider rollupAddress assertionHash deployBlock latest) := by
  rcases scanFilters_descends floor with ⟨bottom, descends, bottom_le, -⟩
  refine
    { asks := scanFilters_asks
      starts := ?_
      contiguous := descends.isChain
      disjoint := descends.pairwise
      nonempty := fun filter filter_mem => (descends.bounds filter_mem).2.1
      short := ?_
      floor := fun filter filter_mem => Nat.le_trans bottom_le (descends.bounds filter_mem).1
      ceiling := fun filter filter_mem => (descends.bounds filter_mem).2.2.1 }
  · have first := descends.head?_eq
    cases queries : scanFilters provider rollupAddress assertionHash deployBlock latest with
    | nil =>
        rw [queries] at first
        cases first
    | cons filter rest =>
        rw [queries] at first
        exact congrArg some (BitVec.eq_of_toNat_eq (Option.some.inj first))
  · intro filter filter_mem
    have bounds := descends.bounds filter_mem
    omega

theorem ScansDown.in_range {filters : List Filter}
    (scans : ScansDown rollupAddress assertionHash deployBlock latest filters) {filter : Filter}
    (filter_mem : filter ∈ filters) {block : U64} (from_le : filter.fromBlock ≤ block)
    (le_to : block ≤ filter.toBlock) : deployBlock ≤ block ∧ block ≤ latest :=
  ⟨BitVec.le_trans (scans.floor filter filter_mem) from_le,
    BitVec.le_trans le_to (scans.ceiling filter filter_mem)⟩

/-- If no query returns a log then the windows cover the blocks down to the deploy block. -/
theorem scanFilters_cover (floor : deployBlock ≤ latest)
    (silent : ∀ filter ∈ scanFilters provider rollupAddress assertionHash deployBlock latest,
      provider.getLogs filter = .ok []) (block : U64) :
    (∃ filter ∈ scanFilters provider rollupAddress assertionHash deployBlock latest,
      filter.fromBlock ≤ block ∧ block ≤ filter.toBlock) ↔
      deployBlock ≤ block ∧ block ≤ latest := by
  rcases scanFilters_descends floor with ⟨bottom, descends, -, lowest⟩
  have cover := descends.exists_mem_iff block.toNat
  rw [lowest silent] at cover
  exact cover

/-- A query is answered with exactly the logs of its window. -/
theorem L1Rpc.Answers.getLogs_eq {logs : List (U64 × Log)}
    (answers : provider.Answers rollupAddress assertionHash logs) {filter : Filter}
    (asks : filter.address = rollupAddress ∧ filter.topic1 = assertionHash)
    (nonempty : filter.fromBlock ≤ filter.toBlock) :
    ∃ answer, provider.getLogs filter = .ok answer ∧ ∀ log, log ∈ answer ↔
      ∃ block, (block, log) ∈ logs ∧ filter.fromBlock ≤ block ∧ block ≤ filter.toBlock := by
  rcases filter with ⟨address, topic1, fromBlock, toBlock⟩
  rcases asks with ⟨rfl, rfl⟩
  rcases answers fromBlock toBlock nonempty with ⟨answer, given, exactly⟩
  refine ⟨answer, given, ?_⟩
  intro log
  rw [exactly.mem_iff]
  simp

/-- The scan found the first log of the highest window with one, or no log is in its range. -/
theorem scanWindows_outcome {alloy : Alloy} {logs : List (U64 × Log)}
    (floor : deployBlock ≤ latest) (answers : provider.Answers rollupAddress assertionHash logs)
    (decodes : ∀ entry ∈ logs, ∃ decoded, alloy.decodeLog entry.2 = .ok decoded) :
    (∃ higher filter log rest block decoded,
      scanFilters provider rollupAddress assertionHash deployBlock latest = higher ++ [filter] ∧
      (∀ empty ∈ higher, provider.getLogs empty = .ok []) ∧
      provider.getLogs filter = .ok (log :: rest) ∧
      (block, log) ∈ logs ∧ filter.fromBlock ≤ block ∧ block ≤ filter.toBlock ∧
      alloy.decodeLog log = .ok decoded ∧
      scanWindows alloy provider rollupAddress assertionHash deployBlock latest latest =
        .ok (decoded.parentAssertionHash, decoded.assertion.afterState,
          decoded.afterInboxBatchAcc)) ∨
    (¬∃ entry ∈ logs, deployBlock ≤ entry.1 ∧ entry.1 ≤ latest) ∧
      scanWindows alloy provider rollupAddress assertionHash deployBlock latest latest =
        .error (noLogFound assertionHash deployBlock latest) := by
  have scans : ScansDown rollupAddress assertionHash deployBlock latest
      (scanFilters provider rollupAddress assertionHash deployBlock latest) :=
    scansDown_scanFilters floor
  have answered {filter : Filter} (filter_mem : filter ∈
      scanFilters provider rollupAddress assertionHash deployBlock latest) :=
    answers.getLogs_eq (scans.asks filter filter_mem) (scans.nonempty filter filter_mem)
  rcases scanFilters_eq_concat alloy with ⟨higher, last, split, silent, report⟩
  have last_mem : last ∈ scanFilters provider rollupAddress assertionHash deployBlock latest :=
    split ▸ List.mem_append_right _ (List.mem_singleton_self last)
  rcases answered last_mem with ⟨_ | ⟨log, rest⟩, given, exactly⟩
  · right
    rw [given] at report
    refine ⟨?_, report⟩
    rintro ⟨⟨block, log⟩, entry_mem, in_range⟩
    have all_silent : ∀ filter ∈
        scanFilters provider rollupAddress assertionHash deployBlock latest,
        provider.getLogs filter = .ok [] := by
      rw [split]
      exact List.forall_mem_append.mpr ⟨silent, List.forall_mem_singleton.mpr given⟩
    rcases (scanFilters_cover floor all_silent block).mpr in_range with ⟨filter, filter_mem, inside⟩
    rcases answered filter_mem with ⟨answer, given, exactly⟩
    have log_mem := (exactly log).mpr ⟨block, entry_mem, inside⟩
    rw [Except.ok.inj (given.symm.trans (all_silent filter filter_mem))] at log_mem
    cases log_mem
  · left
    rcases (exactly log).mp List.mem_cons_self with ⟨block, entry_mem, inside⟩
    rcases decodes _ entry_mem with ⟨decoded, decodes⟩
    rw [given, scanReport, decodes] at report
    exact ⟨higher, last, log, rest, block, decoded, split, silent, given, entry_mem, inside.1,
      inside.2, decodes, report⟩

theorem fetchAssertionCreated_eq_scanWindows (alloy : Alloy)
    (tip : provider.getBlockNumber = .ok latest) :
    fetchAssertionCreated alloy (.ok provider) rollupAddress assertionHash deployBlock =
      scanWindows alloy provider rollupAddress assertionHash deployBlock latest latest := by
  simp only [fetchAssertionCreated, bind, Except.bind, tip]

theorem windowStart_of_below (below : latest < deployBlock) :
    windowStart latest deployBlock = deployBlock := by
  have start := toNat_windowStart latest deployBlock
  rw [BitVec.lt_def] at below
  apply BitVec.eq_of_toNat_eq
  omega

/-- With the tip below the deploy block, there is one query for a reversed window. -/
theorem scanFilters_of_below (below : latest < deployBlock) :
    scanFilters provider rollupAddress assertionHash deployBlock latest =
      [{ address := rollupAddress, topic1 := assertionHash, fromBlock := deployBlock,
         toBlock := latest }] := by
  have start := windowStart_of_below below
  have reached : windowStart latest deployBlock ≤ deployBlock := start.symm ▸ BitVec.le_refl _
  rw [scanFilters_of_stop fun _ => reached, start]

theorem scanWindows_of_below (alloy : Alloy) (below : latest < deployBlock)
    (silent : provider.getLogs { address := rollupAddress, topic1 := assertionHash,
                                 fromBlock := deployBlock, toBlock := latest } = .ok []) :
    scanWindows alloy provider rollupAddress assertionHash deployBlock latest latest =
      .error (noLogFound assertionHash deployBlock latest) := by
  rw [scanWindows]
  simp only [windowStart_of_below below, silent]
  exact if_pos (BitVec.le_refl deployBlock)

/-- The backward scan is complete: its result depends on the answers to its queries alone, these
visit contiguous windows from the chain tip down, and it returns the first log of the highest
window with one, or reports that the range has none. -/
theorem fetchAssertionCreated_scan_complete (alloy : Alloy) (provider : L1Rpc)
    (rollupAddress : Address) (assertionHash : B256) (deployBlock latest : U64)
    (tip : provider.getBlockNumber = .ok latest) :
    let filters := scanFilters provider rollupAddress assertionHash deployBlock latest
    let result :=
      fetchAssertionCreated alloy (.ok provider) rollupAddress assertionHash deployBlock
    (∀ other : L1Rpc, other.getBlockNumber = .ok latest →
      (∀ filter ∈ filters, other.getLogs filter = provider.getLogs filter) →
      scanFilters other rollupAddress assertionHash deployBlock latest = filters ∧
      fetchAssertionCreated alloy (.ok other) rollupAddress assertionHash deployBlock = result) ∧
    (deployBlock ≤ latest → ∀ logs : List (U64 × Log),
      provider.Answers rollupAddress assertionHash logs →
      (∀ entry ∈ logs, ∃ decoded, alloy.decodeLog entry.2 = .ok decoded) →
      ScansDown rollupAddress assertionHash deployBlock latest filters ∧
      ((∀ filter ∈ filters, provider.getLogs filter = .ok []) → ∀ block,
        (∃ filter ∈ filters, filter.fromBlock ≤ block ∧ block ≤ filter.toBlock) ↔
          deployBlock ≤ block ∧ block ≤ latest) ∧
      ((∃ entry ∈ logs, deployBlock ≤ entry.1 ∧ entry.1 ≤ latest) →
        ∃ higher filter log rest block decoded,
          filters = higher ++ [filter] ∧ (∀ empty ∈ higher, provider.getLogs empty = .ok []) ∧
          provider.getLogs filter = .ok (log :: rest) ∧
          (block, log) ∈ logs ∧ filter.fromBlock ≤ block ∧ block ≤ filter.toBlock ∧
          alloy.decodeLog log = .ok decoded ∧
          result = .ok (decoded.parentAssertionHash, decoded.assertion.afterState,
            decoded.afterInboxBatchAcc)) ∧
      (result = .error (noLogFound assertionHash deployBlock latest) ↔
        ¬∃ entry ∈ logs, deployBlock ≤ entry.1 ∧ entry.1 ≤ latest)) ∧
    (latest < deployBlock →
      provider.getLogs { address := rollupAddress, topic1 := assertionHash,
                         fromBlock := deployBlock, toBlock := latest } = .ok [] →
      filters.length = 1 ∧ result = .error (noLogFound assertionHash deployBlock latest)) := by
  intro filters result
  have scanned : result = scanWindows alloy provider rollupAddress assertionHash deployBlock
      latest latest := fetchAssertionCreated_eq_scanWindows alloy tip
  refine ⟨?_, ?_, ?_⟩
  · intro other other_tip agree
    rw [scanned, fetchAssertionCreated_eq_scanWindows alloy other_tip]
    exact scan_congr alloy agree
  · intro floor logs answers decodes
    refine ⟨scansDown_scanFilters floor, scanFilters_cover floor, ?_⟩
    rw [scanned]
    rcases scanWindows_outcome floor answers decodes with found | ⟨none, missing⟩
    · refine ⟨fun _ => found, ?_⟩
      rcases found with ⟨higher, filter, log, rest, block, decoded, split, -, -, entry_mem,
        from_le, le_to, -, returned⟩
      have in_range := (scansDown_scanFilters floor).in_range
        (split ▸ List.mem_append_right higher (List.mem_singleton_self filter)) from_le le_to
      refine iff_of_false ?_ (not_not_intro ⟨(block, log), entry_mem, in_range⟩)
      rw [returned]
      exact fun failed => nomatch failed
    · exact ⟨fun exists_log => (none exists_log).elim, iff_of_true missing none⟩
  · intro below silent
    exact ⟨congrArg List.length (scanFilters_of_below below),
      scanned.trans (scanWindows_of_below alloy below silent)⟩

/-- A provider which serves the logs of one assertion. -/
def L1Rpc.serving (latest : U64) (rollupAddress : Address) (assertionHash : B256)
    (logs : List (U64 × Log)) : L1Rpc where
  getBlockNumber := .ok latest
  getLogs filter :=
    if filter.address = rollupAddress ∧ filter.topic1 = assertionHash then
      .ok ((logs.filter fun entry =>
        filter.fromBlock ≤ entry.1 ∧ entry.1 ≤ filter.toBlock).map Prod.snd)
    else .ok []

theorem L1Rpc.answers_serving (latest : U64) (rollupAddress : Address) (assertionHash : B256)
    (logs : List (U64 × Log)) :
    (L1Rpc.serving latest rollupAddress assertionHash logs).Answers rollupAddress assertionHash
      logs := by
  intro fromBlock toBlock nonempty
  exact ⟨_, if_pos ⟨rfl, rfl⟩, List.Perm.refl _⟩

open OneAccount in
/-- The log of the assertion is in the third window. -/
theorem fetchAssertionCreated_scan_complete_third_window :
    let network := NetworkConfig.testnet
    let provider := L1Rpc.serving 10300000 network.rollupAddress confirmedAssertionHash
      [(10210000, log)]
    ScansDown network.rollupAddress confirmedAssertionHash network.rollupDeployBlock 10300000
      (scanFilters provider network.rollupAddress confirmedAssertionHash
        network.rollupDeployBlock 10300000) ∧
    fetchAssertionCreated alloy (.ok provider) network.rollupAddress confirmedAssertionHash
      network.rollupDeployBlock = .ok (1, afterState, 2) := by
  intro network provider
  have decodes_log : alloy.decodeLog log = .ok
      { parentAssertionHash := 1, assertion := ⟨afterState⟩, afterInboxBatchAcc := 2 } := by
    simp only [alloy, decodeLog_log]
  have floor : NetworkConfig.testnet.rollupDeployBlock ≤ 10300000 := by decide
  have decodes : ∀ entry ∈ [((10210000 : U64), log)],
      ∃ decoded, alloy.decodeLog entry.2 = .ok decoded := by
    intro entry entry_mem
    rw [List.mem_singleton.mp entry_mem]
    exact ⟨_, decodes_log⟩
  rcases (fetchAssertionCreated_scan_complete alloy provider network.rollupAddress
    confirmedAssertionHash network.rollupDeployBlock 10300000 rfl).2.1 floor _
    (L1Rpc.answers_serving _ _ _ _) decodes with ⟨scans, -, found, -⟩
  have in_range : NetworkConfig.testnet.rollupDeployBlock ≤ 10210000 ∧
      (10210000 : U64) ≤ 10300000 := by
    decide
  rcases found ⟨_, List.mem_singleton_self _, in_range⟩ with
    ⟨higher, filter, found, rest, block, decoded, -, -, -, found_mem, -, -, decoding, returned⟩
  have same := List.mem_singleton.mp found_mem
  rw [Prod.mk.injEq] at same
  rw [same.2] at decoding
  have fields := Except.ok.inj (decoding.symm.trans decodes_log)
  rw [fields] at returned
  exact ⟨scans, returned⟩

end Zkhood
