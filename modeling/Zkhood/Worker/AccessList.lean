import Zkhood.Executor.Transfer
import Zkhood.Worker.Authenticity

/-!
# What an access list leaves out

The verified provider answers for the accounts of its access list and their code
from the L2 state, and so it does for the slots which the server has shown. For
everything else it has a default. `fetchedDatabase` is the database this makes,
and `listedDatabase` the one if the server shows what it is asked for.

So the access list matters. Two lists give every batch the same results exactly
when the overlay shadows, or the defaults happen to be, what only one of them
fetches.
-/

namespace Zkhood

section Listed

variable (state : L2State) (accessList : List AccountAccess)

/-- The access list names the account. -/
def Listed (address : Address) : Prop := ∃ acc ∈ accessList, acc.address = address

/-- The access list requests the slot. -/
def ListedSlot (address : Address) (index : U256) : Prop :=
  ∃ acc ∈ accessList, acc.address = address ∧ index ∈ acc.slots

/-- The code of a listed account has this hash and is not empty. -/
def ListedCode (codeHash : B256) : Prop :=
  codeHash ≠ keccakEmpty ∧
    ∃ acc ∈ accessList, (state.leaf acc.address).map TrieAccount.codeHash = some codeHash

instance (address : Address) : Decidable (Listed accessList address) :=
  inferInstanceAs (Decidable (∃ acc ∈ accessList, acc.address = address))

instance (address : Address) (index : U256) : Decidable (ListedSlot accessList address index) :=
  inferInstanceAs (Decidable (∃ acc ∈ accessList, acc.address = address ∧ index ∈ acc.slots))

instance (codeHash : B256) : Decidable (ListedCode state accessList codeHash) :=
  inferInstanceAs (Decidable (codeHash ≠ keccakEmpty ∧
    ∃ acc ∈ accessList, (state.leaf acc.address).map TrieAccount.codeHash = some codeHash))

/-- The L2 state on the accounts of an access list and on the slots which were shown, and defaults
elsewhere. -/
def fetchedDatabase (shown : Address → U256 → Bool) : DatabaseRef Infallible where
  basicRef address := .ok (if Listed accessList address then some (state.info address) else none)
  codeByHashRef codeHash := .ok (if ListedCode state accessList codeHash
    then ⟨state.code codeHash⟩ else Bytecode.default)
  storageRef address index := .ok (if shown address index then state.slot address index else 0)
  blockHashRef _ := .ok 0

/-- The L2 state on an access list, and defaults elsewhere. -/
def listedDatabase : DatabaseRef Infallible :=
  fetchedDatabase state accessList fun address index => ListedSlot accessList address index

/-- A provider has recorded the accounts of an access list and their code, and no slots of other
accounts. -/
structure Covers (provider : VerifiedStateProvider) : Prop where
  accounts : ∀ address, address ∈ provider.accounts ↔ Listed accessList address
  storage : ∀ address index, (address, index) ∈ provider.storage → Listed accessList address
  code : ∀ codeHash, codeHash ∈ provider.code ↔ ListedCode state accessList codeHash

/-- A provider has recorded the slots of an access list, and no others. -/
def CoversSlots (provider : VerifiedStateProvider) : Prop :=
  ∀ address index, (address, index) ∈ provider.storage ↔ ListedSlot accessList address index

end Listed

/-- The server returns exactly the storage proofs which it is asked for. -/
def L2Rpc.ShowsSlots (rpc : L2Rpc) (blockHash : B256) (acc : AccountAccess) : Prop :=
  ∀ proof, rpc.getProof acc.address acc.slots blockHash = .ok proof →
    ∀ index, index ∈ proof.storageProof.map (fun storageProof => storageProof.key.asB256) ↔
      index ∈ acc.slots

/-- A server which returns the storage proofs it is asked for, and no others. -/
def L2Rpc.Complete (rpc : L2Rpc) : Prop :=
  ∀ address slots blockHash proof, rpc.getProof address slots blockHash = .ok proof →
    ∀ index, index ∈ proof.storageProof.map (fun storageProof => storageProof.key.asB256) ↔
      index ∈ slots

/-- Helios is honest, and the L2 servers are complete. -/
structure ConfirmedBlock.Serves {alloy : Alloy} (world : ConfirmedBlock alloy) (cfg : WorkerConfig)
    (net : Network) : Prop where
  helios : ∀ rpc, net.helios cfg.heliosRpc = .ok rpc → world.Honest cfg.network.rollupAddress rpc
  complete : ∀ index rpc, net.l2Account index cfg.robinhoodRpc = .ok rpc → rpc.Complete

section Fetching

variable {alloy : Alloy} {world : ConfirmedBlock alloy} {provider : VerifiedStateProvider}
  {done : List AccountAccess}

theorem covers_new (state : L2State) (block : VerifiedL2Block) :
    Covers state [] (VerifiedStateProvider.new block) where
  accounts := by simp [VerifiedStateProvider.new, Listed]
  storage := by simp [VerifiedStateProvider.new]
  code := by simp [VerifiedStateProvider.new, ListedCode]

theorem coversSlots_new (block : VerifiedL2Block) :
    CoversSlots [] (VerifiedStateProvider.new block) := by
  simp [CoversSlots, VerifiedStateProvider.new, ListedSlot]

theorem listed_concat (done : List AccountAccess) (acc : AccountAccess) (address : Address) :
    Listed (done ++ [acc]) address ↔ Listed done address ∨ acc.address = address := by
  simp [Listed, or_and_right, exists_or]

theorem listedSlot_concat (done : List AccountAccess) (acc : AccountAccess) (address : Address)
    (index : U256) : ListedSlot (done ++ [acc]) address index ↔
      ListedSlot done address index ∨ (acc.address = address ∧ index ∈ acc.slots) := by
  simp [ListedSlot, or_and_right, exists_or]

theorem listedCode_concat (state : L2State) (done : List AccountAccess) (acc : AccountAccess)
    (codeHash : B256) : ListedCode state (done ++ [acc]) codeHash ↔
      ListedCode state done codeHash ∨ (codeHash ≠ keccakEmpty ∧
        (state.leaf acc.address).map TrieAccount.codeHash = some codeHash) := by
  simp only [ListedCode, List.mem_append, List.mem_singleton, or_and_right, exists_or,
    exists_eq_left, and_or_left]

theorem mem_code_recordAccount {address : Address} {proof : EIP1186AccountProofResponse}
    (described : proof.Describes world.state address) {rpc : L2Rpc} {block : VerifiedL2Block}
    {code : Option Bytecode}
    (fetched : VerifiedStateProvider.fetchCode alloy rpc block address proof = .ok code)
    (codeHash : B256) :
    codeHash ∈ (provider.recordAccount address proof code).code ↔ codeHash ∈ provider.code ∨
      (codeHash ≠ keccakEmpty ∧
        (world.state.leaf address).map TrieAccount.codeHash = some codeHash) := by
  rw [EIP1186AccountProofResponse.Describes] at described
  rcases VerifiedStateProvider.fetchCode_ok fetched with
    ⟨rfl, codeless⟩ | ⟨bytes, -, -, rfl, nonempty, has_code, -⟩
  · change codeHash ∈ provider.code ↔ _
    by_cases empty : proof.isEmpty
    · rw [if_pos empty] at described
      simp [described]
    · rw [if_neg empty] at described
      have unset := codeless.resolve_left empty
      simp only [described, unset, Option.map_some, Option.some.injEq, iff_self_or]
      rintro ⟨differs, same⟩
      exact absurd same.symm differs
  · rw [if_neg nonempty] at described
    simp only [VerifiedStateProvider.recordAccount, Std.ExtTreeMap.mem_insert,
      Std.compare_eq_iff_eq, described, Option.map_some, Option.some.injEq]
    grind

/-- Whatever the server answers, a fetch which succeeds covers the account. -/
theorem Covers.fetchAccount {acc : AccountAccess} {next : VerifiedStateProvider}
    {l2Rpc : Endpoint L2Rpc} (covers : Covers world.state done provider)
    (authentic : Authentic world provider)
    (ok : provider.fetchAccount alloy l2Rpc acc.address acc.slots = (next, .ok ())) :
    Covers world.state (done ++ [acc]) next := by
  rcases fetchAccount_eq_ok_iff.mp ok with
    ⟨rpc, proof, stored, code_found, proven, recorded, fetched, rfl⟩
  rcases VerifiedStateProvider.proveAccount_ok proven with ⟨connected, answered, verified⟩
  rw [authentic.root] at verified
  have described := world.holds.describes verified
  rcases recordStorage_ok recorded with ⟨accounts, code, block, storage⟩
  constructor
  · intro address
    simp only [VerifiedStateProvider.recordAccount, Std.ExtTreeMap.mem_insert,
      Std.compare_eq_iff_eq, accounts, covers.accounts, listed_concat]
    exact or_comm
  · intro address index slot_mem
    change (address, index) ∈ stored.storage at slot_mem
    rw [listed_concat]
    rcases (storage address index).mp slot_mem with before | ⟨rfl, -⟩
    · exact Or.inl (covers.storage address index before)
    · exact Or.inr rfl
  · intro codeHash
    rw [mem_code_recordAccount described fetched, code, covers.code, listedCode_concat]

theorem CoversSlots.fetchAccount {acc : AccountAccess} {next : VerifiedStateProvider}
    {l2Rpc : Endpoint L2Rpc} (covers : CoversSlots done provider)
    (shows_slots : ∀ rpc, l2Rpc = .ok rpc → rpc.ShowsSlots provider.block.hash acc)
    (ok : provider.fetchAccount alloy l2Rpc acc.address acc.slots = (next, .ok ())) :
    CoversSlots (done ++ [acc]) next ∧ next.block = provider.block := by
  rcases fetchAccount_eq_ok_iff.mp ok with ⟨rpc, proof, stored, code, proven, recorded, -, rfl⟩
  rcases VerifiedStateProvider.proveAccount_ok proven with ⟨connected, answered, -⟩
  rcases recordStorage_ok recorded with ⟨-, -, block, storage⟩
  refine ⟨?_, block⟩
  intro address index
  change (address, index) ∈ stored.storage ↔ _
  rw [storage, covers, listedSlot_concat, shows_slots rpc connected proof answered,
    eq_comm (a := address)]

theorem Covers.fetchAccessList {accessList : List AccountAccess} {next : VerifiedStateProvider}
    {l2Account : ℕ → Endpoint L2Rpc} {first : ℕ} (covers : Covers world.state done provider)
    (authentic : Authentic world provider) (collisionFree : world.CollisionFree)
    (keccak_nil : alloy.keccak256 [] = keccakEmpty)
    (ok : fetchAccessList alloy provider l2Account first accessList = (next, .ok ())) :
    Covers world.state (done ++ accessList) next ∧ Authentic world next := by
  induction accessList generalizing provider first done with
  | nil =>
      cases ok
      rw [List.append_nil]
      exact ⟨covers, authentic⟩
  | cons acc rest ih =>
      rw [Zkhood.fetchAccessList] at ok
      split at ok
      · cases ok
      · rename_i stored fetched
        have extended := covers.fetchAccount authentic fetched
        have still := authentic.fetchAccount collisionFree keccak_nil (l2Account first) acc.address
          acc.slots
        rw [fetched] at still
        rw [List.append_cons]
        exact ih extended still ok

theorem CoversSlots.fetchAccessList {accessList : List AccountAccess} {next : VerifiedStateProvider}
    {l2Account : ℕ → Endpoint L2Rpc} {first : ℕ} (covers : CoversSlots done provider)
    (shows_slots : ∀ index acc, accessList[index]? = some acc →
      ∀ rpc, l2Account (first + index) = .ok rpc → rpc.ShowsSlots provider.block.hash acc)
    (ok : fetchAccessList alloy provider l2Account first accessList = (next, .ok ())) :
    CoversSlots (done ++ accessList) next := by
  induction accessList generalizing provider first done with
  | nil =>
      cases ok
      rwa [List.append_nil]
  | cons acc rest ih =>
      rw [Zkhood.fetchAccessList] at ok
      split at ok
      · cases ok
      · rename_i stored fetched
        rcases covers.fetchAccount (shows_slots 0 acc rfl) fetched with ⟨extended, block⟩
        rw [List.append_cons]
        refine ih extended ?_ ok
        intro index acc listed
        rw [block, Nat.add_right_comm]
        exact shows_slots (index + 1) acc listed

theorem getElem?_eq_ite {α β : Type} [Ord α] [Std.TransOrd α] {map : HashMap α β} {key : α}
    {value : β} {listed : Prop} [Decidable listed] (mem : key ∈ map ↔ listed)
    (held : ∀ found, map[key]? = some found → found = value) :
    map[key]? = if listed then some value else none := by
  split
  · rename_i is_listed
    have found := Std.ExtTreeMap.getElem?_eq_some_getElem (mem.mpr is_listed)
    rw [found, held _ found]
  · rename_i unlisted
    exact Std.ExtTreeMap.getElem?_eq_none (mt mem.mp unlisted)

/-- A provider which is authentic and covers an access list answers from the L2 state what it has
recorded. -/
theorem databaseRef_eq_fetchedDatabase {accessList : List AccountAccess}
    (covers : Covers world.state accessList provider) (authentic : Authentic world provider) :
    provider.databaseRef = fetchedDatabase world.state accessList fun address index =>
      provider.storage.contains (address, index) := by
  ext1
  · funext address
    simp only [VerifiedStateProvider.databaseRef, fetchedDatabase]
    rw [getElem?_eq_ite (covers.accounts address) (authentic.accounts address)]
  · funext codeHash
    have value : ∀ found, provider.code[codeHash]? = some found →
        found = ⟨world.state.code codeHash⟩ := by
      intro found held
      rcases authentic.code codeHash found held with ⟨_, _, -, -, is_code⟩
      exact is_code
    simp only [VerifiedStateProvider.databaseRef, fetchedDatabase]
    rw [getElem?_eq_ite (covers.code codeHash) value]
    split <;> rfl
  · funext address index
    simp only [VerifiedStateProvider.databaseRef, fetchedDatabase]
    rw [getElem?_eq_ite Std.ExtTreeMap.contains_iff_mem.symm (authentic.storage address index)]
    split <;> rfl
  · rfl

/-- A provider which covers the list answers as the listed database. -/
theorem databaseRef_eq_listedDatabase {accessList : List AccountAccess}
    (covers : Covers world.state accessList provider)
    (covers_slots : CoversSlots accessList provider) (authentic : Authentic world provider) :
    provider.databaseRef = listedDatabase world.state accessList := by
  rw [databaseRef_eq_fetchedDatabase covers authentic, listedDatabase]
  congr 1
  funext address index
  rw [Bool.eq_iff_iff, Std.ExtTreeMap.contains_iff_mem, covers_slots, decide_eq_true_iff]

/-- Whatever the untrusted servers answer, a provider which the verified path executes on covers the
access list with true entries; with all slots, if the L2 server shows them. -/
theorem verifiedProvider_ok (collisionFree : world.CollisionFree)
    (keccak_nil : alloy.keccak256 [] = keccakEmpty) {net : Network} {cfg : WorkerConfig}
    (honest : ∀ rpc, net.helios cfg.heliosRpc = .ok rpc →
      world.Honest cfg.network.rollupAddress rpc) {accessList : List AccountAccess}
    (prefetched : verifiedProvider alloy net cfg accessList = .ok provider) :
    Covers world.state accessList provider ∧ Authentic world provider ∧
      ((∀ index acc, accessList[index]? = some acc →
          ∀ rpc, net.l2Account index cfg.robinhoodRpc = .ok rpc →
            rpc.ShowsSlots (alloy.hashSlow world.header) acc) →
        CoversSlots accessList provider) := by
  simp only [verifiedProvider, bind_eq_ok_iff, mapError_eq_ok_iff] at prefetched
  rcases prefetched with ⟨anchor, anchored, block, rooted, ⟨⟩, fetched, returned⟩
  rw [world.l2BlockHash_eq collisionFree honest anchored] at rooted
  rcases world.stateRoot_eq collisionFree rooted with ⟨hash, root⟩
  have loop : fetchAccessList alloy (VerifiedStateProvider.new block)
      (fun index => net.l2Account index cfg.robinhoodRpc) 0 accessList = (provider, .ok ()) :=
    Prod.ext (Except.ok.inj returned) fetched
  rcases (covers_new world.state block).fetchAccessList (Authentic.new root) collisionFree
    keccak_nil loop with ⟨covers, authentic⟩
  refine ⟨covers, authentic, ?_⟩
  intro shows_slots
  refine (coversSlots_new block).fetchAccessList ?_ loop
  intro index acc listed rpc connected
  rw [Nat.zero_add] at connected
  rw [VerifiedStateProvider.new, hash]
  exact shows_slots index acc listed rpc connected

/-- A verified request runs on the L2 state of its access list, whatever the untrusted servers
answer, as long as they return the proofs. -/
theorem executeBatchVerified_eq_run {runtime : Runtime Infallible}
    (collisionFree : world.CollisionFree) (keccak_nil : alloy.keccak256 [] = keccakEmpty)
    {net : Network} {cfg : WorkerConfig} (serves : world.Serves cfg net) {req : ExecuteBatchRequest}
    (prefetched : verifiedProvider alloy net cfg req.accessList = .ok provider)
    (overlay : OverlayState) :
    executeBatchVerified runtime alloy net req overlay cfg =
      (run runtime (listedDatabase world.state req.accessList) overlay req.ctx req.txs).mapError
        .report := by
  rcases verifiedProvider_ok collisionFree keccak_nil serves.helios prefetched with
    ⟨covers, authentic, covers_slots⟩
  have all_shown := covers_slots fun index acc _ rpc connected =>
    serves.complete index rpc connected acc.address acc.slots _
  simp only [executeBatchVerified, prefetched, mapError_ok, bind, Except.bind,
    databaseRef_eq_listedDatabase covers all_shown authentic]

end Fetching

namespace OneAccount

/-- The servers of the example. -/
def net : Network where
  helios _ := .ok helios
  l1 _ := .ok l1
  l2Block _ := .ok l2
  l2Account _ _ := .ok l2

theorem serves : world.Serves .testnet net where
  helios := fun rpc connected => Except.ok.inj connected ▸ honest
  complete := by
    intro _ rpc connected address slots hash proof answered index
    rw [← Except.ok.inj connected] at answered
    simp only [l2] at answered
    split at answered
    · cases answered
      simp [JsonStorageKey.asB256]
    · cases answered

/-- The fetches for an access list at the example's block. -/
def fetch (accessList : List AccountAccess) :
    VerifiedStateProvider × Except (Failure String) Unit :=
  fetchAccessList alloy
    (VerifiedStateProvider.new { number := 1, hash := blockHash, stateRoot := stateRoot })
    (fun _ => .ok l2) 0 accessList

theorem verifiedProvider_eq {accessList : List AccountAccess}
    (fetched : (fetch accessList).2 = .ok ()) :
    verifiedProvider alloy net .testnet accessList = .ok (fetch accessList).1 := by
  rw [fetch] at fetched
  simp only [verifiedProvider, net, WorkerConfig.testnet, anchored, rooted, mapError_ok, bind,
    Except.bind, fetched, fetch]
  rfl

/-- A transfer of nothing, which succeeds whatever the balance of its caller is. -/
def emptyTransfer : List TxEnv := [transferTx 0x11 0x22 0 0]

/-- The result of the empty transfer over the provider for an access list. -/
def runEmptyTransfer (accessList : List AccountAccess) :
    Except ExecError (ExecuteBatchResponse × OverlayState) :=
  run (transferRuntime Keccak.hash) (fetch accessList).1.databaseRef OverlayState.new testnetContext
    emptyTransfer

theorem executeBatchVerified_eq {accessList : List AccountAccess}
    (fetched : (fetch accessList).2 = .ok ()) :
    executeBatchVerified (transferRuntime Keccak.hash) alloy net
      { ctx := testnetContext, txs := emptyTransfer, accessList, mockState := none }
        OverlayState.new .testnet = (runEmptyTransfer accessList).mapError .report := by
  simp only [executeBatchVerified, verifiedProvider_eq fetched, mapError_ok, bind, Except.bind,
    runEmptyTransfer]

end OneAccount

section Agreement

/-- What only one of two access lists fetches is shadowed by the overlay, or is what a provider
answers by default. -/
structure SameFootprint (state : L2State) (overlay : OverlayState)
    (left right : List AccountAccess) : Prop where
  accounts : ∀ address, (Listed left address ↔ Listed right address) ∨
    (overlay.view address).destroyed ∨ (overlay.view address).info.isSome
  storage : ∀ address index, (ListedSlot left address index ↔ ListedSlot right address index) ∨
    (overlay.view address).destroyed ∨ ((overlay.view address).slots index).isSome ∨
      state.slot address index = 0
  code : ∀ codeHash, (ListedCode state left codeHash ↔ ListedCode state right codeHash) ∨
    overlay.code[codeHash]?.isSome

section Footprint

variable {alloy : Alloy} {world : ConfirmedBlock alloy}

theorem code_ne_default (keccak_nil : alloy.keccak256 [] = keccakEmpty)
    {accessList : List AccountAccess} {codeHash : B256}
    (listed : ListedCode world.state accessList codeHash) :
    ⟨world.state.code codeHash⟩ ≠ Bytecode.default := by
  rcases listed with ⟨has_code, acc, -, is_hash⟩
  rcases Option.map_eq_some_iff.mp is_hash with ⟨leaf, is_leaf, rfl⟩
  have hashed := world.holds.code acc.address leaf is_leaf
  intro empty
  rw [Bytecode.default, Bytecode.mk.injEq] at empty
  rw [empty, keccak_nil] at hashed
  exact has_code hashed.symm

/-- Showing a value under two conditions gives the same answer exactly if the conditions agree or
the value is the default. -/
theorem shown_eq_shown_iff {α : Type} {left right : Prop} [Decidable left] [Decidable right]
    (value default : α) :
    (if left then value else default) = (if right then value else default) ↔
      (left ↔ right) ∨ value = default := by
  by_cases in_left : left <;> by_cases in_right : right <;> simp [in_left, in_right, eq_comm]

/-- Two access lists give the same layered database exactly if their footprints are the same. -/
theorem layerOver_listedDatabase_eq_iff (keccak_nil : alloy.keccak256 [] = keccakEmpty)
    (overlay : OverlayState) (left right : List AccountAccess) :
    overlay.layerOver (listedDatabase world.state left) =
        overlay.layerOver (listedDatabase world.state right) ↔
      SameFootprint world.state overlay left right := by
  have basic : ∀ address, (listedDatabase world.state left).basicRef address =
      (listedDatabase world.state right).basicRef address ↔
        (Listed left address ↔ Listed right address) := by
    intro address
    simp only [listedDatabase, fetchedDatabase, Except.ok.injEq, shown_eq_shown_iff, reduceCtorEq,
      or_false]
  have code : ∀ codeHash, (listedDatabase world.state left).codeByHashRef codeHash =
      (listedDatabase world.state right).codeByHashRef codeHash ↔
        (ListedCode world.state left codeHash ↔ ListedCode world.state right codeHash) := by
    intro codeHash
    simp only [listedDatabase, fetchedDatabase, Except.ok.injEq, shown_eq_shown_iff]
    refine or_iff_left_of_imp ?_
    intro empty
    exact iff_of_false (fun listed => code_ne_default keccak_nil listed empty)
      (fun listed => code_ne_default keccak_nil listed empty)
  have storage : ∀ address index, (listedDatabase world.state left).storageRef address index =
      (listedDatabase world.state right).storageRef address index ↔
        (ListedSlot left address index ↔ ListedSlot right address index) ∨
          world.state.slot address index = 0 := by
    intro address index
    simp only [listedDatabase, fetchedDatabase, Except.ok.injEq, decide_eq_true_iff,
      shown_eq_shown_iff]
  have shadowed : ∀ {agree zero destroyed written : Prop},
      (agree ∨ zero) ∨ destroyed ∨ written ↔ agree ∨ destroyed ∨ written ∨ zero := by
    intro agree zero destroyed written
    rw [or_assoc, or_comm (a := zero), or_assoc]
  rw [OverlayState.layerOver_eq_iff]
  simp only [basic, code, storage, shadowed]
  constructor
  · rintro ⟨accounts, code, storage, -⟩
    exact ⟨accounts, storage, code⟩
  · intro same
    exact ⟨same.accounts, same.code, same.storage, rfl⟩

end Footprint

section Probe

variable (question : DatabaseRef Infallible → Bool) (keccak256 : Bytes → Hash)
  (txDebug : TxEnv → Bytes)

/-- The account in which a probe reports an answer. -/
def reportInfo (answer : Bool) : AccountInfo :=
  { AccountInfo.default with balance := if answer then 1 else 0 }

/-- An EVM which asks its database one question, whatever the transactions are, and reports the
answer in a balance. -/
abbrev probe : Revm Infallible where
  Evm := Bool
  ExecutionResult := Unit
  build database _ := question database
  transactOne evm _ := .ok ((), evm)
  finalize evm := IterMap.empty.insert 0
    { info := reportInfo evm
      status := { created := false, selfDestructed := false, touched := true }
      storage := IterMap.empty }

theorem transactAll_probe (evm : (probe question).Evm) (outcomes : List (TxOutcome Unit))
    (txHashes : List Hash) (txs : List TxEnv) :
    ∃ results hashes, transactAll ⟨probe question, keccak256, txDebug⟩ evm outcomes txHashes txs =
      .ok (results, hashes, evm) := by
  induction txs generalizing outcomes txHashes with
  | nil => exact ⟨outcomes, txHashes, rfl⟩
  | cons tx rest ih => exact ih _ _

theorem run_probe (base : DatabaseRef Infallible) (overlay : OverlayState) (ctx : BatchContext)
    (txs : List TxEnv) :
    ∃ response next, run ⟨probe question, keccak256, txDebug⟩ base overlay ctx txs =
        .ok (response, next) ∧
      ∀ other : DatabaseRef Infallible, (next.layerOver other).basicRef 0 =
        .ok (some (reportInfo (question (overlay.layerOver base)))) := by
  let evm := (probe question).build (overlay.layerOver base) ctx.chainId
  rcases transactAll_probe question keccak256 txDebug evm [] [] txs with ⟨results, hashes, executed⟩
  have ran : ∃ response commitment, run ⟨probe question, keccak256, txDebug⟩ base overlay ctx txs =
      .ok (response,
        (overlay.applyEvmState ((probe question).finalize evm)).setCommitment commitment) := by
    simp only [run, applyBatchWithOverlay, applyBatchStateful, evm, executed, bind, Except.bind,
      pure, Except.pure, mapError_ok]
    exact ⟨_, _, rfl⟩
  rcases ran with ⟨response, commitment, succeeds⟩
  refine ⟨response, _, succeeds, ?_⟩
  intro other
  rw [OverlayState.basicRef_layerOver, OverlayState.view_setCommitment,
    OverlayState.view_applyEvmState]
  simp [evm, IterMap.get?_insert, Account.mergeView, Account.isSelfdestructed, AddressView.basic]

end Probe

/-- When two verified requests which differ in their access list both succeed, they return the same
public values and leave overlays which read the same. -/
def AccessListIrrelevant (alloy : Alloy) (keccak256 : Bytes → Hash) (txDebug : TxEnv → Bytes)
    (net net' : Network) (cfg : WorkerConfig) (overlay : OverlayState) (ctx : BatchContext)
    (txs : List TxEnv) (left right : List AccountAccess) : Prop :=
  ∀ (revm : Revm Infallible) response next response' next',
    executeBatchVerified ⟨revm, keccak256, txDebug⟩ alloy net
      { ctx, txs, accessList := left, mockState := none } overlay cfg = .ok (response, next) →
    executeBatchVerified ⟨revm, keccak256, txDebug⟩ alloy net'
      { ctx, txs, accessList := right, mockState := none } overlay cfg = .ok (response', next') →
    response.publicValues = response'.publicValues ∧ next.ReadsSame next'

/-- If no REVM can tell two runs apart, the databases below them are the same. -/
theorem layerOver_eq_of_forall_run {keccak256 : Bytes → Hash} {txDebug : TxEnv → Bytes}
    {left right : DatabaseRef Infallible} {overlay : OverlayState} {ctx : BatchContext}
    {txs : List TxEnv}
    (agree : ∀ (revm : Revm Infallible) response next response' next',
      run ⟨revm, keccak256, txDebug⟩ left overlay ctx txs = .ok (response, next) →
      run ⟨revm, keccak256, txDebug⟩ right overlay ctx txs = .ok (response', next') →
      next.ReadsSame next') :
    overlay.layerOver left = overlay.layerOver right := by
  classical
  let question : DatabaseRef Infallible → Bool :=
    fun database => decide (database = overlay.layerOver left)
  rcases run_probe question keccak256 txDebug left overlay ctx txs with
    ⟨response, next, ran, report⟩
  rcases run_probe question keccak256 txDebug right overlay ctx txs with
    ⟨response', next', ran', report'⟩
  have same := agree (probe question) response next response' next' ran ran'
  have reports := congrFun (congrArg DatabaseRef.basicRef (same Infallible left)) 0
  rw [report left, report' left] at reports
  by_contra differs
  simp [question, reportInfo, AccountInfo.default, AccountInfo.new, Ne.symm differs] at reports

/-- When both access lists can be prefetched, they give every batch the same results exactly if
their footprints are the same. -/
theorem accessListIrrelevant_iff_sameFootprint {alloy : Alloy} (world : ConfirmedBlock alloy)
    (collisionFree : world.CollisionFree) (keccak_nil : alloy.keccak256 [] = keccakEmpty)
    (keccak256 : Bytes → Hash) (txDebug : TxEnv → Bytes) {net net' : Network} {cfg : WorkerConfig}
    (serves : world.Serves cfg net) (serves' : world.Serves cfg net') (overlay : OverlayState)
    (ctx : BatchContext) (txs : List TxEnv) {left right : List AccountAccess}
    {provider provider' : VerifiedStateProvider}
    (prefetched : verifiedProvider alloy net cfg left = .ok provider)
    (prefetched' : verifiedProvider alloy net' cfg right = .ok provider') :
    AccessListIrrelevant alloy keccak256 txDebug net net' cfg overlay ctx txs left right ↔
      SameFootprint world.state overlay left right := by
  rw [← layerOver_listedDatabase_eq_iff keccak_nil overlay left right]
  have runs : ∀ runtime, executeBatchVerified runtime alloy net
      { ctx, txs, accessList := left, mockState := none } overlay cfg =
        (run runtime (listedDatabase world.state left) overlay ctx txs).mapError .report :=
    fun runtime => executeBatchVerified_eq_run collisionFree keccak_nil serves prefetched overlay
  have runs' : ∀ runtime, executeBatchVerified runtime alloy net'
      { ctx, txs, accessList := right, mockState := none } overlay cfg =
        (run runtime (listedDatabase world.state right) overlay ctx txs).mapError .report :=
    fun runtime => executeBatchVerified_eq_run collisionFree keccak_nil serves' prefetched' overlay
  simp only [AccessListIrrelevant, runs, runs', mapError_eq_ok_iff]
  constructor
  · intro irrelevant
    exact layerOver_eq_of_forall_run fun revm response next response' next' ran ran' =>
      (irrelevant revm response next response' next' ran ran').2
  · intro same revm response next response' next' ran ran'
    rw [← run_congr _ same, ran] at ran'
    cases ran'
    exact ⟨rfl, fun _ _ => rfl⟩

/-- Access lists which differ in a slot that is zero. -/
theorem accessListIrrelevant_oneAccount :
    AccessListIrrelevant OneAccount.alloy Keccak.hash transferDebug OneAccount.net OneAccount.net
      .testnet OverlayState.new testnetContext [transferTx 0x11 0x22 7 0]
        [⟨0x11, [1]⟩, ⟨0x22, []⟩] [⟨0x11, []⟩, ⟨0x22, []⟩] := by
  refine (accessListIrrelevant_iff_sameFootprint OneAccount.world OneAccount.collisionFree
    (by decide) Keccak.hash transferDebug OneAccount.serves OneAccount.serves OverlayState.new
    testnetContext [transferTx 0x11 0x22 7 0]
    (OneAccount.verifiedProvider_eq (by decide +kernel))
    (OneAccount.verifiedProvider_eq (by decide +kernel))).mpr ?_
  constructor
  · intro address
    exact Or.inl (by simp [Listed])
  · intro address index
    have zero : OneAccount.world.state.slot address index = 0 := by
      simp only [L2State.slot, OneAccount.world, OneAccount.state]
      split <;> rfl
    exact Or.inr (Or.inr (Or.inr zero))
  · intro codeHash
    exact Or.inl (by simp [ListedCode])

open OneAccount in
/-- The caller of a batch is listed or not; the batch succeeds both times, with different new
commitments. -/
theorem not_accessListIrrelevant_oneAccount :
    world.Serves .testnet net ∧
      ¬AccessListIrrelevant alloy Keccak.hash transferDebug net net .testnet OverlayState.new
        testnetContext emptyTransfer [⟨0x11, []⟩] [] := by
  refine ⟨serves, ?_⟩
  intro irrelevant
  have succeed : (runEmptyTransfer [⟨0x11, []⟩]).toOption.isSome ∧
      (runEmptyTransfer []).toOption.isSome := by
    decide +kernel
  have differ : (runEmptyTransfer [⟨0x11, []⟩]).toOption.map (·.1.publicValues) ≠
      (runEmptyTransfer []).toOption.map (·.1.publicValues) := by
    decide +kernel
  rcases Option.isSome_iff_exists.mp succeed.1 with ⟨⟨response, next⟩, listed⟩
  rcases Option.isSome_iff_exists.mp succeed.2 with ⟨⟨response', next'⟩, unlisted⟩
  rw [listed, unlisted] at differ
  rw [toOption_eq_some_iff, ← mapError_eq_ok_iff,
    ← executeBatchVerified_eq (by decide +kernel)] at listed unlisted
  apply differ
  rw [Option.map_some, Option.map_some,
    (irrelevant transferRevm response next response' next' listed unlisted).1]

end Agreement

end Zkhood
