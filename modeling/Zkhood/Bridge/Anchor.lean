import Zkhood.Bridge.LogScan

/-!
# The anchor under an untrusted L1 server

The L1 server only proposes: what it returns is checked against the hash which
Helios reports. So whatever it answers, the bridge fails or returns the one true
anchor, and it returns the anchor exactly if the proposal is the confirmed
assertion. With an honest L1 server that is the case as soon as the event of the
assertion is between the deploy block and the tip.
-/

namespace Zkhood

namespace ConfirmedBlock

variable {alloy : Alloy} (world : ConfirmedBlock alloy)

/-- The anchor of the confirmed block. -/
def anchor : VerifiedL2Anchor where
  confirmedAssertionHash := world.confirmedAssertionHash
  l2BlockHash := alloy.hashSlow world.header
  l2SendRoot := world.afterState.globalState.bytes32Vals.2

/-- A Helios sidecar which answers both calls as the rollup contract does. -/
structure Available (rollupAddress : Address) (rpc : HeliosRpc) : Prop where
  latestConfirmed : ∃ data, rpc.call rollupAddress .latestConfirmed = .ok data ∧
    alloy.decodeReturns data = .ok world.confirmedAssertionHash
  computeAssertionHash : ∀ parent afterState inboxAcc, ∃ data,
    rpc.call rollupAddress (.computeAssertionHash parent afterState inboxAcc) = .ok data ∧
      alloy.decodeReturns data = .ok (world.assertionHash parent afterState inboxAcc)

/-- A decoded event which is that of the confirmed assertion. -/
def IsEvent (decoded : AssertionCreated) : Prop :=
  decoded.parentAssertionHash = world.parentAssertionHash ∧
    decoded.assertion.afterState = world.afterState ∧
    decoded.afterInboxBatchAcc = world.inboxAcc

variable {world} {rollupAddress : Address} {helios : HeliosRpc}

theorem Available.callLatestConfirmed (available : world.Available rollupAddress helios) :
    Zkhood.callLatestConfirmed alloy (.ok helios) rollupAddress =
      .ok world.confirmedAssertionHash := by
  rcases available.latestConfirmed with ⟨data, called, decoded⟩
  simp only [Zkhood.callLatestConfirmed, bind, Except.bind, called, mapError_ok, decoded]

theorem Available.callComputeAssertionHash (available : world.Available rollupAddress helios)
    (parent : B256) (afterState : AssertionState) (inboxAcc : B256) :
    Zkhood.callComputeAssertionHash alloy (.ok helios) rollupAddress parent afterState inboxAcc =
      .ok (world.assertionHash parent afterState inboxAcc) := by
  rcases available.computeAssertionHash parent afterState inboxAcc with ⟨data, called, decoded⟩
  simp only [Zkhood.callComputeAssertionHash, bind, Except.bind, called, mapError_ok, decoded]

/-- The bridge accepts a proposal exactly if its assertion has the confirmed hash. -/
theorem Available.verifyLatestL2Anchor_eq {network : NetworkConfig}
    (available : world.Available network.rollupAddress helios) (l1Rpc : Endpoint L1Rpc) :
    verifyLatestL2Anchor alloy (.ok helios) l1Rpc network =
      fetchAssertionCreated alloy l1Rpc network.rollupAddress world.confirmedAssertionHash
        network.rollupDeployBlock >>= fun (parent, afterState, inboxAcc) =>
      if world.assertionHash parent afterState inboxAcc = world.confirmedAssertionHash then
        .ok { confirmedAssertionHash := world.confirmedAssertionHash
              l2BlockHash := afterState.globalState.l2BlockHash
              l2SendRoot := afterState.globalState.bytes32Vals.2 }
      else .error ("assertion self-verification failed: contract computed " ++
        lowerHex 32 (world.assertionHash parent afterState inboxAcc) ++ ", expected " ++
        lowerHex 32 world.confirmedAssertionHash ++
        " (untrusted event data was wrong or malicious)") := by
  simp only [verifyLatestL2Anchor, available.callLatestConfirmed, bind, Except.bind]
  cases fetchAssertionCreated alloy l1Rpc network.rollupAddress world.confirmedAssertionHash
      network.rollupDeployBlock with
  | error e => rfl
  | ok proposal =>
      rcases proposal with ⟨parent, afterState, inboxAcc⟩
      simp only [available.callComputeAssertionHash, ensure]
      by_cases matching :
          world.assertionHash parent afterState inboxAcc = world.confirmedAssertionHash
      · simp only [if_pos matching]
        rfl
      · simp only [if_neg matching]

/-- Whatever data hashes to the confirmed assertion makes the same anchor. -/
theorem anchor_eq (collisionFree : world.CollisionFree) {parent inboxAcc : B256}
    {afterState : AssertionState}
    (matching : world.assertionHash parent afterState inboxAcc = world.confirmedAssertionHash) :
    ({ confirmedAssertionHash := world.confirmedAssertionHash
       l2BlockHash := afterState.globalState.l2BlockHash
       l2SendRoot := afterState.globalState.bytes32Vals.2 } : VerifiedL2Anchor) =
      world.anchor := by
  rcases collisionFree.assertion parent afterState inboxAcc matching with ⟨-, rfl, -⟩
  rw [anchor, world.committed]

/-- Only the confirmed assertion's own data hashes to it. -/
theorem assertionHash_eq_iff (collisionFree : world.CollisionFree) {parent inboxAcc : B256}
    {afterState : AssertionState} :
    world.assertionHash parent afterState inboxAcc = world.confirmedAssertionHash ↔
      (parent, afterState, inboxAcc) =
        (world.parentAssertionHash, world.afterState, world.inboxAcc) := by
  rw [Prod.mk.injEq, Prod.mk.injEq]
  refine ⟨collisionFree.assertion parent afterState inboxAcc, ?_⟩
  rintro ⟨rfl, rfl, rfl⟩
  rfl

/-- An L1 server with the logs of the chain: every log it has for the assertion is its event. -/
structure HasEvents (l1 : L1Rpc) (rollupAddress : Address) (latest : U64)
    (logs : List (U64 × Log)) : Prop where
  tip : l1.getBlockNumber = .ok latest
  answers : l1.Answers rollupAddress world.confirmedAssertionHash logs
  events : ∀ entry ∈ logs, ∃ decoded, alloy.decodeLog entry.2 = .ok decoded ∧ world.IsEvent decoded

/-- With the chain's logs, the anchor is reached exactly if the event is in the range of the scan.
-/
theorem Available.verifyLatestL2Anchor_of_hasEvents (collisionFree : world.CollisionFree)
    {network : NetworkConfig} (available : world.Available network.rollupAddress helios)
    {l1 : L1Rpc} {latest : U64} {logs : List (U64 × Log)}
    (hasEvents : world.HasEvents l1 network.rollupAddress latest logs)
    (floor : network.rollupDeployBlock ≤ latest) :
    verifyLatestL2Anchor alloy (.ok helios) (.ok l1) network =
      if ∃ entry ∈ logs, network.rollupDeployBlock ≤ entry.1 ∧ entry.1 ≤ latest then
        .ok world.anchor
      else .error (noLogFound world.confirmedAssertionHash network.rollupDeployBlock latest) := by
  have decodes : ∀ entry ∈ logs, ∃ decoded, alloy.decodeLog entry.2 = .ok decoded := by
    intro entry entry_mem
    rcases hasEvents.events entry entry_mem with ⟨decoded, decoding, -⟩
    exact ⟨decoded, decoding⟩
  rw [available.verifyLatestL2Anchor_eq, fetchAssertionCreated_eq_scanWindows alloy hasEvents.tip]
  rcases scanWindows_outcome floor hasEvents.answers decodes with
    ⟨higher, filter, log, rest, block, decoded, split, -, -, entry_mem, from_le, le_to, decoding,
      returned⟩ | ⟨none, missing⟩
  · have in_range := (scansDown_scanFilters floor).in_range
      (split ▸ List.mem_append_right higher (List.mem_singleton_self filter)) from_le le_to
    rcases hasEvents.events _ entry_mem with ⟨event, event_decoding, parent, afterState, inboxAcc⟩
    cases decoding.symm.trans event_decoding
    have matching := (assertionHash_eq_iff collisionFree).mpr (Eq.refl
      (world.parentAssertionHash, world.afterState, world.inboxAcc))
    rw [if_pos ⟨_, entry_mem, in_range⟩, returned, parent, afterState, inboxAcc]
    simp only [bind, Except.bind, if_pos matching, anchor_eq collisionFree matching]
  · rw [if_neg none, missing]
    rfl

end ConfirmedBlock

open ConfirmedBlock

/-- Whatever the untrusted L1 server answers, a returned anchor is the true one, and it is returned
exactly if the server proposes the confirmed assertion. From a server with the logs of the chain
that is so exactly if the assertion's event is in the range of the scan. -/
theorem anchor_of_untrusted_l1 {alloy : Alloy} (world : ConfirmedBlock alloy)
    (collisionFree : world.CollisionFree) (network : NetworkConfig) {helios : HeliosRpc}
    (available : world.Available network.rollupAddress helios) :
    (∀ l1Rpc anchor, verifyLatestL2Anchor alloy (.ok helios) l1Rpc network = .ok anchor →
      anchor = world.anchor) ∧
    (∀ l1Rpc, verifyLatestL2Anchor alloy (.ok helios) l1Rpc network = .ok world.anchor ↔
      fetchAssertionCreated alloy l1Rpc network.rollupAddress world.confirmedAssertionHash
        network.rollupDeployBlock =
          .ok (world.parentAssertionHash, world.afterState, world.inboxAcc)) ∧
    ∀ l1 latest logs, world.HasEvents l1 network.rollupAddress latest logs →
      network.rollupDeployBlock ≤ latest →
      verifyLatestL2Anchor alloy (.ok helios) (.ok l1) network =
        if ∃ entry ∈ logs, network.rollupDeployBlock ≤ entry.1 ∧ entry.1 ≤ latest then
          .ok world.anchor
        else .error (noLogFound world.confirmedAssertionHash network.rollupDeployBlock latest) := by
  refine ⟨?_, ?_, fun l1 latest logs hasEvents floor =>
    available.verifyLatestL2Anchor_of_hasEvents collisionFree hasEvents floor⟩
  · intro l1Rpc anchor verified
    rw [available.verifyLatestL2Anchor_eq, bind_eq_ok_iff] at verified
    rcases verified with ⟨⟨parent, afterState, inboxAcc⟩, -, checked⟩
    dsimp only at checked
    split at checked
    · rename_i matching
      rw [← Except.ok.inj checked, anchor_eq collisionFree matching]
    · cases checked
  · intro l1Rpc
    rw [available.verifyLatestL2Anchor_eq, bind_eq_ok_iff]
    constructor
    · rintro ⟨⟨parent, afterState, inboxAcc⟩, proposed, checked⟩
      dsimp only at checked
      split at checked
      · rename_i matching
        rw [proposed, (assertionHash_eq_iff collisionFree).mp matching]
      · cases checked
    · intro proposed
      refine ⟨_, proposed, ?_⟩
      have matching := (assertionHash_eq_iff collisionFree).mpr (Eq.refl
        (world.parentAssertionHash, world.afterState, world.inboxAcc))
      simp only [if_pos matching, anchor_eq collisionFree matching]

namespace OneAccount

theorem available : world.Available NetworkConfig.testnet.rollupAddress helios where
  latestConfirmed := ⟨_, rfl, decodeReturns_word _⟩
  computeAssertionHash _ _ _ := ⟨_, rfl, decodeReturns_word _⟩

theorem hasEvents (latest : U64) :
    world.HasEvents (L1Rpc.serving latest NetworkConfig.testnet.rollupAddress
      world.confirmedAssertionHash [(10210000, log)]) NetworkConfig.testnet.rollupAddress latest
      [(10210000, log)] where
  tip := rfl
  answers := L1Rpc.answers_serving _ _ _ _
  events := by
    intro entry entry_mem
    rw [List.mem_singleton.mp entry_mem]
    refine ⟨{ parentAssertionHash := world.parentAssertionHash
              assertion := ⟨world.afterState⟩
              afterInboxBatchAcc := world.inboxAcc }, ?_, rfl, rfl, rfl⟩
    simp only [alloy, decodeLog_log, world]

end OneAccount

open OneAccount (alloy world helios collisionFree available) in
/-- The event is two windows below one tip, and above another. -/
theorem anchor_of_untrusted_l1_third_window :
    let l1 latest := L1Rpc.serving latest NetworkConfig.testnet.rollupAddress
      world.confirmedAssertionHash [(10210000, OneAccount.log)]
    verifyLatestL2Anchor alloy (.ok helios) (.ok (l1 10300000)) .testnet = .ok world.anchor ∧
      verifyLatestL2Anchor alloy (.ok helios) (.ok (l1 10209999)) .testnet =
        .error (noLogFound world.confirmedAssertionHash 10204516 10209999) := by
  intro l1
  have scanned (latest : U64) (floor : NetworkConfig.testnet.rollupDeployBlock ≤ latest) :=
    (anchor_of_untrusted_l1 world collisionFree .testnet available).2.2 (l1 latest) latest _
      (OneAccount.hasEvents latest) floor
  constructor
  · rw [scanned 10300000 (by decide)]
    exact if_pos ⟨_, List.mem_singleton_self _, by decide⟩
  · rw [scanned 10209999 (by decide)]
    refine if_neg ?_
    rintro ⟨entry, entry_mem, in_range⟩
    rw [List.mem_singleton.mp entry_mem] at in_range
    exact absurd in_range (by decide)

end Zkhood
