import Zkhood.Bridge.Anchor
import Zkhood.Bridge.HonestAnswers
import Zkhood.Worker.Refinement

/-!
# A worker with honest servers

If the servers answer truly, and in a form which `fetchAccount` accepts, the
verified path succeeds, and all slots of the access list are shown. So the
worker has the runs of the worker without servers, each request being executed
on the entries of its access list as they are in its confirmed L2 state, and on
defaults for everything else.

The path succeeds server by server: the sidecar and the L1 server give the
anchor, the L2 server gives the header with the anchored hash, and each entry of
the access list is fetched from the proofs of the L2 server.
-/

namespace Zkhood

open SnapshotCell

namespace ConfirmedBlock

variable {alloy : Alloy} (world : ConfirmedBlock alloy)

/-- The confirmed block as the bridge knows it. -/
def block : VerifiedL2Block where
  number := world.header.number
  hash := alloy.hashSlow world.header
  stateRoot := world.header.stateRoot

variable (Genuine : B256 → Nibbles → List Bytes → Prop)

/-- The L2 server answers truly about an entry of an access list, and in a form which `fetchAccount`
accepts: if the account has a leaf then there is something in it and its code is in a format of
bytecode, and the slots of a missing account come with the empty storage trie. -/
def AnswersFetch (rpc : L2Rpc) (acc : AccountAccess) : Prop :=
  ∃ proof, rpc.HonestFor alloy Genuine world.state world.block acc.address acc.slots proof ∧
    (∀ leaf, world.state.leaf acc.address = some leaf → ¬proof.isEmpty) ∧
    world.state.HasFormat alloy acc.address ∧
    (world.state.leaf acc.address = none → acc.slots = [] ∨ proof.storageHash = EMPTY_ROOT_HASH)

/-- All servers answer truly, and in accepted forms, during a request with this access list. -/
structure AnswersRequest (cfg : WorkerConfig) (net : Network) (accessList : List AccountAccess) :
    Prop where
  helios : ∃ rpc, net.helios cfg.heliosRpc = .ok rpc ∧
    world.Available cfg.network.rollupAddress rpc
  l1 : ∃ rpc latest logs, net.l1 cfg.untrustedL1Rpc = .ok rpc ∧
    world.HasEvents rpc cfg.network.rollupAddress latest logs ∧
    ∃ entry ∈ logs, cfg.network.rollupDeployBlock ≤ entry.1 ∧ entry.1 ≤ latest
  l2Block : ∃ rpc, net.l2Block cfg.robinhoodRpc = .ok rpc ∧
    rpc.getBlockByHash (alloy.hashSlow world.header) = .ok (some world.header)
  l2Account : ∀ index acc, accessList[index]? = some acc → ∃ rpc,
    net.l2Account index cfg.robinhoodRpc = .ok rpc ∧ world.AnswersFetch Genuine rpc acc

variable {world Genuine}

theorem Available.honest {rollupAddress : Address} {rpc : HeliosRpc}
    (available : world.Available rollupAddress rpc) : world.Honest rollupAddress rpc where
  latestConfirmed := by
    intro data answer called decoded
    rcases available.latestConfirmed with ⟨true_data, true_call, true_answer⟩
    cases called.symm.trans true_call
    exact Except.ok.inj (decoded.symm.trans true_answer)
  computeAssertionHash := by
    intro parent afterState inboxAcc data answer called decoded
    rcases available.computeAssertionHash parent afterState inboxAcc with
      ⟨true_data, true_call, true_answer⟩
    cases called.symm.trans true_call
    exact Except.ok.inj (decoded.symm.trans true_answer)

theorem AnswersFetch.showsSlots {rpc : L2Rpc} {acc : AccountAccess}
    (answers : world.AnswersFetch Genuine rpc acc) :
    rpc.ShowsSlots (alloy.hashSlow world.header) acc := by
  rcases answers with ⟨proof, honest, -⟩
  intro proof' answered index
  cases answered.symm.trans honest.answered
  rw [List.mem_map]
  constructor
  · rintro ⟨storageProof, storageProof_mem, rfl⟩
    exact honest.requested storageProof_mem
  · intro requested
    exact honest.exists_storageProof requested

theorem AnswersFetch.fetchAccount_succeeds (complete : world.tries.Complete Genuine) {rpc : L2Rpc}
    {acc : AccountAccess} (answers : world.AnswersFetch Genuine rpc acc)
    {provider : VerifiedStateProvider} (anchored : provider.block = world.block) :
    ∃ next, provider.fetchAccount alloy (.ok rpc) acc.address acc.slots = (next, .ok ()) ∧
      next.block = world.block := by
  rcases answers with ⟨proof, honest, nonempty, format, rooted⟩
  rw [← anchored] at honest
  have holds : world.tries.Holds provider.block.stateRoot world.state := by
    rw [anchored]
    exact world.holds
  rcases honest.fetchAccount_eq holds complete nonempty format rooted with
    ⟨stored, code, recorded, -, ok⟩
  exact ⟨_, ok, (recordStorage_ok recorded).2.2.1.trans anchored⟩

/-- The fetches for an access list succeed if all of them are answered truly. -/
theorem fetchAccessList_succeeds (complete : world.tries.Complete Genuine)
    {l2Account : ℕ → Endpoint L2Rpc} (accessList : List AccountAccess) (first : ℕ)
    (answers : ∀ index acc, accessList[index]? = some acc → ∃ rpc,
      l2Account (first + index) = .ok rpc ∧ world.AnswersFetch Genuine rpc acc)
    {provider : VerifiedStateProvider} (anchored : provider.block = world.block) :
    ∃ next, fetchAccessList alloy provider l2Account first accessList = (next, .ok ()) := by
  induction accessList generalizing first provider with
  | nil => exact ⟨provider, rfl⟩
  | cons acc rest ih =>
      rcases answers 0 acc rfl with ⟨rpc, connected, answered⟩
      rcases answered.fetchAccount_succeeds complete anchored with ⟨next, fetched, still⟩
      rw [Nat.add_zero] at connected
      rw [fetchAccessList, connected, fetched]
      refine ih (first + 1) ?_ still
      intro index acc listed
      rw [Nat.add_right_comm]
      exact answers (index + 1) acc listed

/-- The verified path executes on the L2 state of the access list. -/
theorem AnswersRequest.verifiedProvider_succeeds (collisionFree : world.CollisionFree)
    (keccak_nil : alloy.keccak256 [] = keccakEmpty) (complete : world.tries.Complete Genuine)
    {cfg : WorkerConfig} {net : Network} {accessList : List AccountAccess}
    (answers : world.AnswersRequest Genuine cfg net accessList) :
    ∃ provider, verifiedProvider alloy net cfg accessList = .ok provider ∧
      provider.databaseRef = listedDatabase world.state accessList := by
  rcases answers.helios with ⟨helios, is_helios, available⟩
  rcases answers.l1 with ⟨l1, latest, logs, is_l1, hasEvents, in_range⟩
  have floor : cfg.network.rollupDeployBlock ≤ latest := by
    rcases in_range with ⟨entry, -, above, below⟩
    exact BitVec.le_trans above below
  have anchor := available.verifyLatestL2Anchor_of_hasEvents collisionFree hasEvents floor
  rw [if_pos in_range] at anchor
  rcases answers.l2Block with ⟨l2, is_l2, header⟩
  have rooted : fetchVerifiedStateRoot alloy (.ok l2) world.anchor.l2BlockHash =
      .ok world.block := by
    change fetchVerifiedStateRoot alloy (.ok l2) (alloy.hashSlow world.header) = _
    simp only [fetchVerifiedStateRoot, bind, Except.bind, header, okOrElse, ensure, block,
      if_true]
    rfl
  have fresh : (VerifiedStateProvider.new world.block).block = world.block := rfl
  rcases fetchAccessList_succeeds complete accessList 0 (by simpa using answers.l2Account) fresh
    with ⟨provider, fetched⟩
  have succeeds : verifiedProvider alloy net cfg accessList = .ok provider := by
    simp only [verifiedProvider, is_helios, is_l1, anchor, is_l2, rooted, fetched, mapError_ok,
      bind, Except.bind]
    rfl
  have honest : ∀ rpc, net.helios cfg.heliosRpc = .ok rpc →
      world.Honest cfg.network.rollupAddress rpc := by
    intro rpc connected
    cases connected.symm.trans is_helios
    exact available.honest
  rcases verifiedProvider_ok collisionFree keccak_nil honest succeeds with
    ⟨covers, authentic, covers_slots⟩
  refine ⟨provider, succeeds, databaseRef_eq_listedDatabase covers (covers_slots ?_) authentic⟩
  intro index acc listed rpc connected
  rcases answers.l2Account index acc listed with ⟨server, is_server, answered⟩
  cases connected.symm.trans is_server
  exact answered.showsSlots

end ConfirmedBlock

section Runs

variable {ι : Type} {runtime : Runtime Infallible} {alloy : Alloy} {requests : Requests ι}
  {cfg : WorkerConfig} {Genuine : ι → B256 → Nibbles → List Bytes → Prop}

/-- What a worker without servers does for a request which is shown the slots of its access list. -/
def Requests.listedWork (runtime : Runtime Infallible) (requests : Requests ι)
    (state : ι → L2State) :
    ι → OverlayState → Except (Failure ExecError) (ExecuteBatchResponse × OverlayState) :=
  requests.fetchedWork runtime state fun request address index =>
    ListedSlot (requests.request request).accessList address index

/-- A request which is answered truly executes on the listed state. -/
theorem work_eq_listedWork (world : ι → ConfirmedBlock alloy) {request : ι}
    (collisionFree : (world request).CollisionFree)
    (keccak_nil : alloy.keccak256 [] = keccakEmpty)
    (complete : (world request).tries.Complete (Genuine request))
    (configured : requests.workerConfig = some cfg)
    (answers : (requests.request request).mockState = none →
      (world request).AnswersRequest (Genuine request) cfg (requests.net request)
        (requests.request request).accessList) (overlay : OverlayState) :
    requests.work runtime alloy request overlay =
      requests.listedWork runtime (fun request => (world request).state) request overlay := by
  rw [Requests.work, dispatch_eq, Requests.listedWork, Requests.fetchedWork]
  cases mock : (requests.request request).mockState with
  | some provider =>
      rw [Requests.baseState_of_mock mock]
      rfl
  | none =>
      rcases (answers mock).verifiedProvider_succeeds collisionFree keccak_nil complete with
        ⟨provider, succeeds, database⟩
      rw [Requests.baseState_of_verified configured mock, succeeds]
      simp only [mapError_ok, Except.map, bind, Except.bind, Base.databaseRef, database]
      rfl

variable [DecidableEq ι]

/-- With honest servers the worker is the worker without servers on its access lists: whatever the
interleaving, it reaches the same states, with every verified request executed on the accounts and
slots of its access list as they are in its confirmed L2 state. -/
theorem honest_servers_realise_listed (world : ι → ConfirmedBlock alloy)
    (collisionFree : ∀ request, (world request).CollisionFree)
    (keccak_nil : alloy.keccak256 [] = keccakEmpty)
    (complete : ∀ request, (world request).tries.Complete (Genuine request))
    (configured : requests.workerConfig = some cfg)
    (answers : ∀ request, (requests.request request).mockState = none →
      (world request).AnswersRequest (Genuine request) cfg (requests.net request)
        (requests.request request).accessList)
    (overlay : OverlayState) (trace : List (WorkerStep ι)) (state : WorkerState ι) :
    Reaches (requests.work runtime alloy) overlay trace state ↔
      Reaches (requests.listedWork runtime fun request => (world request).state) overlay trace
        state := by
  have same : requests.work runtime alloy =
      requests.listedWork runtime fun request => (world request).state := by
    funext request overlay
    exact work_eq_listedWork world (collisionFree request) keccak_nil (complete request) configured
      (answers request) overlay
  rw [same]

end Runs

namespace OneAccount

theorem showSlots (value : U256 → U256) (Shown : U256 → List Bytes → Prop) (slots : List U256)
    (shown : ∀ slot, value slot = 0 ∧ Shown slot []) :
    ShowSlots value Shown slots
      (slots.map fun slot => { key := .hash slot, value := 0, proof := [] }) := by
  rw [ShowSlots, List.forall₂_map_right_iff]
  exact List.forall₂_same.mpr fun slot _ => ⟨rfl, (shown slot).1.symm, (shown slot).2⟩

/-- The L2 server answers truly about every account and all of its slots. -/
theorem answersFetch (acc : AccountAccess) : world.AnswersFetch Genuine l2 acc := by
  have hash : world.block.hash = blockHash := by simp [ConfirmedBlock.block, world, alloy]
  have answered : l2.getProof acc.address acc.slots world.block.hash = .ok
      { balance := if acc.address = 0x11 then leaf.balance else 0
        nonce := 0
        codeHash := keccakEmpty
        storageHash := EMPTY_ROOT_HASH
        accountProof := [node]
        storageProof := acc.slots.map fun slot =>
          { key := .hash slot, value := 0, proof := [] } } := by
    simp only [hash, l2, if_true]
  have format : world.state.HasFormat alloy acc.address := by
    intro found is_leaf
    rw [(leaf_eq is_leaf).2]
    exact Or.inl rfl
  refine ⟨_, ⟨answered, Or.inl ⟨rfl, rfl⟩, ?_, ?_, fun _ _ => rfl⟩, ?_, format,
    fun _ => Or.inr rfl⟩
  · intro found is_leaf
    rcases leaf_eq is_leaf with ⟨is_account, rfl⟩
    exact ⟨rfl, if_pos is_account, rfl, rfl,
      showSlots _ _ _ fun _ => ⟨rfl, Or.inr ⟨rfl, rfl⟩⟩⟩
  · intro missing
    have other : acc.address ≠ 0x11 := by
      intro is_account
      rw [is_account] at missing
      cases missing
    exact ⟨rfl, if_neg other, Or.inr rfl, Or.inr rfl, showSlots _ _ _ fun _ => ⟨rfl, rfl⟩⟩
  · intro found is_leaf
    rw [EIP1186AccountProofResponse.isEmpty_iff, (leaf_eq is_leaf).1]
    rintro ⟨-, broke, -⟩
    rw [if_pos rfl] at broke
    exact absurd broke (by decide : leaf.balance ≠ 0)

/-- The servers of the one-account chain, with its log at block 10210000. -/
def servingNet : Network :=
  { net with
    l1 := fun _ => .ok (L1Rpc.serving 10300000 NetworkConfig.testnet.rollupAddress
      world.confirmedAssertionHash [(10210000, log)]) }

theorem answersRequest (accessList : List AccountAccess) :
    world.AnswersRequest Genuine .testnet servingNet accessList where
  helios := ⟨helios, rfl, available⟩
  l1 := ⟨_, _, _, rfl, hasEvents 10300000, _, List.mem_singleton_self _, by decide⟩
  l2Block := ⟨l2, rfl, by decide +kernel⟩
  l2Account := fun _ acc _ => ⟨l2, rfl, answersFetch acc⟩

/-- A verified transfer from the account, and one from an account which does not exist. -/
def twoVerified : Requests Bool where
  workerConfig := some .testnet
  request second :=
    { ctx := testnetContext
      txs := [transferTx (if second then 0x22 else 0x11) 0x33 7 0]
      accessList := [⟨0x11, [1, 2]⟩, ⟨0x22, []⟩]
      mockState := none }
  net _ := servingNet

end OneAccount

open OneAccount in
/-- Both requests copy the overlay before either executes. -/
theorem honest_servers_realise_listed_twoVerified :
    ∃ state : WorkerState Bool,
      Reaches (twoVerified.work (transferRuntime Keccak.hash) alloy) OverlayState.new
        [.snapshot false, .snapshot true, .execute true, .store true, .execute false,
          .store false] state ∧
      Reaches (twoVerified.listedWork (transferRuntime Keccak.hash) fun _ => world.state)
        OverlayState.new
        [.snapshot false, .snapshot true, .execute true, .store true, .execute false,
          .store false] state := by
  rcases exists_run_of_two (twoVerified.work (transferRuntime Keccak.hash) alloy) OverlayState.new
    with ⟨state, reaches, -⟩
  refine ⟨state, reaches, ?_⟩
  exact (honest_servers_realise_listed (fun _ => world) (fun _ => collisionFree) (by decide)
    (fun _ => complete) rfl (fun _ _ => answersRequest _) OverlayState.new _ state).mp reaches

end Zkhood
