import Zkhood.Bridge.LogScan

/-!
# The requests of the scan

The windows of the scan are determined by the chain tip and the deploy block
alone: a server only decides where the scan stops. So no server makes the bridge
ask for more than the windows down to the deploy block, and from a server with
the logs of the chain it asks for the windows down to the highest event.
-/

namespace Zkhood

/-- The request for one window, counted from the chain tip. -/
def scanWindow (rollupAddress : Address) (assertionHash : B256) (deployBlock latest : U64)
    (window : ℕ) : Filter where
  address := rollupAddress
  topic1 := assertionHash
  fromBlock := windowStart (latest - BitVec.ofNat 64 (window * LOG_WINDOW.toNat)) deployBlock
  toBlock := latest - BitVec.ofNat 64 (window * LOG_WINDOW.toNat)

/-- The windows from the chain tip down to the one with a block. -/
def windowsDownTo (latest block : U64) : ℕ :=
  (latest.toNat - block.toNat) / LOG_WINDOW.toNat + 1

variable {provider : L1Rpc} {rollupAddress : Address} {assertionHash : B256}
  {deployBlock latest toBlock block : U64}

/-- A window which is not the last one has its full length. -/
theorem windowStart_sub_one_eq (next : ¬windowStart toBlock deployBlock ≤ deployBlock) :
    windowStart toBlock deployBlock - 1 = toBlock - LOG_WINDOW ∧
      (toBlock - LOG_WINDOW).toNat + LOG_WINDOW.toNat = toBlock.toNat := by
  have start := toNat_windowStart toBlock deployBlock
  have adjacent := (toNat_windowStart_sub_one next).1
  have width : LOG_WINDOW.toNat = 45000 := rfl
  rw [BitVec.le_def] at next
  have short : LOG_WINDOW ≤ toBlock := by
    rw [BitVec.le_def]
    omega
  have lowered := BitVec.toNat_sub_of_le short
  constructor
  · apply BitVec.eq_of_toNat_eq
    omega
  · omega

theorem scanWindow_succ (window : ℕ) :
    scanWindow rollupAddress assertionHash deployBlock latest (window + 1) =
      scanWindow rollupAddress assertionHash deployBlock (latest - LOG_WINDOW) window := by
  have lowered : latest - BitVec.ofNat 64 ((window + 1) * LOG_WINDOW.toNat) =
      latest - LOG_WINDOW - BitVec.ofNat 64 (window * LOG_WINDOW.toNat) := by
    rw [Nat.succ_mul, BitVec.ofNat_add, BitVec.ofNat_toNat, BitVec.setWidth_eq, BitVec.add_comm,
      BitVec.sub_sub]
  rw [scanWindow, scanWindow, lowered]

theorem windowsDownTo_eq_succ (lowered : (latest - LOG_WINDOW).toNat + LOG_WINDOW.toNat =
      latest.toNat) (block_le : block ≤ latest - LOG_WINDOW) :
    windowsDownTo latest block = windowsDownTo (latest - LOG_WINDOW) block + 1 := by
  rw [BitVec.le_def] at block_le
  rw [windowsDownTo, windowsDownTo, ← lowered,
    Nat.sub_add_comm block_le, Nat.add_div_right _ (by decide)]

theorem windowsDownTo_eq_one (floor : deployBlock ≤ latest)
    (inside : windowStart latest deployBlock ≤ block) : windowsDownTo latest block = 1 := by
  have bounds := windowStart_bounds floor
  have width : LOG_WINDOW.toNat = 45000 := rfl
  rw [BitVec.le_def] at inside
  rw [windowsDownTo, Nat.div_eq_of_lt (by omega)]

theorem one_le_windowsDownTo : 1 ≤ windowsDownTo latest block := Nat.le_add_left 1 _

/-- The requests are an initial part of the windows from the chain tip. -/
theorem scanFilters_eq_map_range :
    scanFilters provider rollupAddress assertionHash deployBlock toBlock =
      (List.range (scanFilters provider rollupAddress assertionHash deployBlock toBlock).length).map
        (scanWindow rollupAddress assertionHash deployBlock toBlock) := by
  have first (toBlock : U64) : scanWindow rollupAddress assertionHash deployBlock toBlock 0 =
      ⟨rollupAddress, assertionHash, windowStart toBlock deployBlock, toBlock⟩ := by
    simp [scanWindow]
  fun_induction scanFilters provider rollupAddress assertionHash deployBlock toBlock with
  | case1 toBlock fromBlock filter silent reached =>
      exact congrArg (fun only => [only]) (first toBlock).symm
  | case2 toBlock fromBlock filter silent next ih =>
      rw [List.length_cons, List.range_succ_eq_map, List.map_cons, List.map_map, first]
      have shifted : scanWindow rollupAddress assertionHash deployBlock toBlock ∘ Nat.succ =
          scanWindow rollupAddress assertionHash deployBlock (fromBlock - 1) := by
        funext window
        rw [(windowStart_sub_one_eq next).1]
        exact scanWindow_succ window
      rw [shifted, ← ih]
  | case3 toBlock fromBlock filter answered =>
      exact congrArg (fun only => [only]) (first toBlock).symm

/-- The scan makes at most as many queries as the range has windows. -/
theorem length_scanFilters_le (floor : deployBlock ≤ toBlock) :
    (scanFilters provider rollupAddress assertionHash deployBlock toBlock).length ≤
      windowsDownTo toBlock deployBlock := by
  fun_induction scanFilters provider rollupAddress assertionHash deployBlock toBlock with
  | case1 toBlock fromBlock filter silent reached => exact one_le_windowsDownTo
  | case2 toBlock fromBlock filter silent next ih =>
      have above := (toNat_windowStart_sub_one next).2
      rcases windowStart_sub_one_eq next with ⟨start, lowered⟩
      rw [windowsDownTo_eq_succ lowered (start ▸ above), List.length_cons, ← start]
      exact Nat.succ_le_succ (ih above)
  | case3 toBlock fromBlock filter answered => exact one_le_windowsDownTo

/-- The scan ends with the window of a block which is the highest with an event, or the lowest
of the range. -/
theorem length_scanFilters_eq {logs : List (U64 × Log)}
    (answers : provider.Answers rollupAddress assertionHash logs) (floor : deployBlock ≤ block)
    (block_le : block ≤ toBlock) (highest : ∀ entry ∈ logs, entry.1 ≤ toBlock → entry.1 ≤ block)
    (stops : (∃ log, (block, log) ∈ logs) ∨ block = deployBlock) :
    (scanFilters provider rollupAddress assertionHash deployBlock toBlock).length =
      windowsDownTo toBlock block := by
  have answered (toBlock : U64) (above : deployBlock ≤ toBlock) :
      ∃ answer, provider.getLogs ⟨rollupAddress, assertionHash, windowStart toBlock deployBlock,
        toBlock⟩ = .ok answer ∧ ∀ log, log ∈ answer ↔ ∃ block, (block, log) ∈ logs ∧
          windowStart toBlock deployBlock ≤ block ∧ block ≤ toBlock :=
    answers.getLogs_eq ⟨rfl, rfl⟩ (windowStart_bounds above).2.1
  fun_induction scanFilters provider rollupAddress assertionHash deployBlock toBlock with
  | case1 toBlock fromBlock filter silent reached =>
      exact (windowsDownTo_eq_one (BitVec.le_trans floor block_le)
        (BitVec.le_trans reached floor)).symm
  | case2 toBlock fromBlock filter silent next ih =>
      have above := BitVec.le_trans floor block_le
      have outside : block ≤ fromBlock - 1 := by
        rcases toNat_windowStart_sub_one next with ⟨adjacent, lowest⟩
        rcases stops with ⟨log, log_mem⟩ | rfl
        · rcases answered toBlock above with ⟨answer, given, exactly⟩
          have nothing : log ∉ answer := by
            rw [Except.ok.inj (given.symm.trans silent)]
            exact List.not_mem_nil
          have below : ¬fromBlock ≤ block := fun from_le =>
            nothing ((exactly log).mpr ⟨block, log_mem, from_le, block_le⟩)
          rw [BitVec.le_def] at below ⊢
          change (fromBlock - 1).toNat + 1 = fromBlock.toNat at adjacent
          omega
        · exact lowest
      rcases windowStart_sub_one_eq next with ⟨start, lowered⟩
      have shorter : fromBlock - 1 ≤ toBlock := Nat.le_of_lt (windowStart_sub_one_lt next)
      rw [windowsDownTo_eq_succ lowered (start ▸ outside), List.length_cons, ← start]
      exact congrArg (· + 1) (ih outside fun entry entry_mem entry_le =>
        highest entry entry_mem (BitVec.le_trans entry_le shorter))
  | case3 toBlock fromBlock filter answer =>
      have above := BitVec.le_trans floor block_le
      rcases answered toBlock above with ⟨logs_found, given, exactly⟩
      refine (windowsDownTo_eq_one above ?_).symm
      cases logs_found with
      | nil => exact (answer given).elim
      | cons log rest =>
          rcases (exactly log).mp List.mem_cons_self with ⟨found, found_mem, from_le, le_to⟩
          exact BitVec.le_trans from_le (highest _ found_mem le_to)

/-- A server decides only where the scan stops: the requests are the first of a fixed sequence of
windows, no more than those down to the deploy block, and their answers determine the result. From
a server with the logs of the chain they are the windows down to the highest event, or all of them
if the range has none. -/
theorem requests_of_scan (provider : L1Rpc) (rollupAddress : Address) (assertionHash : B256)
    {deployBlock latest : U64} (floor : deployBlock ≤ latest) :
    let requests := scanFilters provider rollupAddress assertionHash deployBlock latest
    requests = (List.range requests.length).map
        (scanWindow rollupAddress assertionHash deployBlock latest) ∧
      requests.length ≤ windowsDownTo latest deployBlock ∧
      (∀ (alloy : Alloy) (other : L1Rpc),
        (∀ request ∈ requests, other.getLogs request = provider.getLogs request) →
        scanWindows alloy other rollupAddress assertionHash deployBlock latest latest =
          scanWindows alloy provider rollupAddress assertionHash deployBlock latest latest) ∧
      ∀ logs : List (U64 × Log), provider.Answers rollupAddress assertionHash logs →
        (∀ event ∈ logs, deployBlock ≤ event.1 → event.1 ≤ latest →
          (∀ entry ∈ logs, entry.1 ≤ latest → entry.1 ≤ event.1) →
          requests.length = windowsDownTo latest event.1) ∧
        ((∀ entry ∈ logs, entry.1 ≤ latest → entry.1 < deployBlock) →
          requests.length = windowsDownTo latest deployBlock) := by
  refine ⟨scanFilters_eq_map_range, length_scanFilters_le floor,
    fun alloy other agree => (scan_congr alloy agree).2, ?_⟩
  intro logs answers
  constructor
  · intro event event_mem above event_le highest
    exact length_scanFilters_eq answers above event_le highest (.inl ⟨event.2, event_mem⟩)
  · intro none
    exact length_scanFilters_eq answers (BitVec.le_refl _) floor
      (fun entry entry_mem entry_le => Nat.le_of_lt (none entry entry_mem entry_le)) (.inr rfl)

/-- Without a deploy block the tip which a server reports is the only bound: a server with the
highest number for it, and no logs, is asked 409927646082435 times. -/
theorem requests_of_scan_highest_tip :
    let serving latest logs := L1Rpc.serving latest NetworkConfig.testnet.rollupAddress
      OneAccount.confirmedAssertionHash logs
    let requests (latest deployBlock : U64) logs := scanFilters (serving latest logs)
      NetworkConfig.testnet.rollupAddress OneAccount.confirmedAssertionHash deployBlock latest
    (requests 10300000 10204516 [(10210000, OneAccount.log)]).length = 3 ∧
      (requests (BitVec.allOnes 64) 0 []).length = 409927646082435 := by
  intro serving requests
  constructor
  · refine ((requests_of_scan (serving 10300000 [(10210000, OneAccount.log)]) _ _ (by decide)).2.2.2
      _ (L1Rpc.answers_serving _ _ _ _)).1 _ (List.mem_singleton_self _) (by decide) (by decide) ?_
    intro entry entry_mem entry_le
    rw [List.mem_singleton.mp entry_mem]
    exact BitVec.le_refl _
  · exact ((requests_of_scan (serving (BitVec.allOnes 64) []) _ _ (by decide)).2.2.2
      _ (L1Rpc.answers_serving _ _ _ _)).2 (List.forall_mem_nil _)

end Zkhood
