import Zkhood.Bridge.L1Verifier
import Zkhood.Bridge.L2Provider
import Zkhood.Data.Keccak

/-!
# The L2 state behind the proofs

An `L2State` is what the tries of a block hold: the leaf of each account, its
storage and its code. A `ConfirmedBlock` is the L2 block which the confirmed
assertion commits to, with the state at its root.

The proofs are checked by hash. Where the hashes involved have no second
preimage, the checks of the bridge leave one anchor, one state root, and one
value for every account and slot.

`OneAccount` is a concrete L2 with a single account, on the servers of which the
bridge can be run.
-/

namespace Zkhood

/-- The L2 state at one block. -/
structure L2State where
  leaf : Address → Option TrieAccount
  storage : Address → U256 → U256
  /-- Code is kept by its hash. -/
  code : B256 → Bytes

namespace L2State

/-- An account as REVM reads it. Without a leaf it is the canonical empty account. -/
def info (self : L2State) (address : Address) : AccountInfo :=
  match self.leaf address with
  | some leaf =>
      AccountInfo.new leaf.balance leaf.nonce leaf.codeHash ⟨self.code leaf.codeHash⟩
  | none => AccountInfo.default

/-- A slot as REVM reads it. Without a leaf it is zero. -/
def slot (self : L2State) (address : Address) (index : U256) : U256 :=
  match self.leaf address with
  | some _ => self.storage address index
  | none => 0

end L2State

/-- What a trie maps each path to. -/
abbrev Trie := Nibbles → Option Bytes

/-- The tries behind the roots. -/
structure Tries (alloy : Alloy) where
  trieAt : B256 → Option Trie
  /-- A proof is accepted only for what the trie with the root maps the path to. -/
  sound : ∀ root key expected proof, alloy.verifyProof root key expected proof = .ok () →
    ∃ trie, trieAt root = some trie ∧ trie key = expected
  empty : trieAt EMPTY_ROOT_HASH = some fun _ => none
  /-- No trie hashes to zero. -/
  zero : trieAt 0 = none

/-- The tries under a state root hold a state. -/
structure Tries.Holds {alloy : Alloy} (tries : Tries alloy) (stateRoot : B256) (state : L2State) :
    Prop where
  accounts : ∃ trie, tries.trieAt stateRoot = some trie ∧
    ∀ address, trie (accountKey alloy address) = (state.leaf address).map TrieAccount.rlpEncode
  storage : ∀ address leaf, state.leaf address = some leaf →
    ∃ trie, tries.trieAt leaf.storageRoot = some trie ∧ ∀ slot, trie (slotKey alloy slot) =
      if state.storage address slot = 0 then none
      else some (Rlp.encodeUint 32 (state.storage address slot))
  code : ∀ address leaf, state.leaf address = some leaf →
    alloy.keccak256 (state.code leaf.codeHash) = leaf.codeHash

/-- An L2 block to which the confirmed assertion commits, and its state. -/
structure ConfirmedBlock (alloy : Alloy) where
  /-- The hash which the rollup contract computes for an assertion. -/
  assertionHash : B256 → AssertionState → B256 → B256
  parentAssertionHash : B256
  afterState : AssertionState
  inboxAcc : B256
  header : Header
  tries : Tries alloy
  state : L2State
  committed : alloy.hashSlow header = afterState.globalState.l2BlockHash
  holds : tries.Holds header.stateRoot state

namespace ConfirmedBlock

variable {alloy : Alloy} (world : ConfirmedBlock alloy)

/-- The hash of the assertion which commits to the block. -/
def confirmedAssertionHash : B256 :=
  world.assertionHash world.parentAssertionHash world.afterState world.inboxAcc

/-- The hashes of the confirmed assertion, the block and the code of its accounts have no second
preimage. -/
structure CollisionFree : Prop where
  assertion : ∀ parent afterState inboxAcc,
    world.assertionHash parent afterState inboxAcc = world.confirmedAssertionHash →
      parent = world.parentAssertionHash ∧ afterState = world.afterState ∧
        inboxAcc = world.inboxAcc
  header : ∀ header, alloy.hashSlow header = alloy.hashSlow world.header → header = world.header
  code : ∀ address leaf bytes, world.state.leaf address = some leaf →
    alloy.keccak256 bytes = alloy.keccak256 (world.state.code leaf.codeHash) →
      bytes = world.state.code leaf.codeHash

/-- A Helios sidecar whose answers are those of the rollup contract. -/
structure Honest (rollupAddress : Address) (rpc : HeliosRpc) : Prop where
  latestConfirmed : ∀ data answer, rpc.call rollupAddress .latestConfirmed = .ok data →
    alloy.decodeReturns data = .ok answer → answer = world.confirmedAssertionHash
  computeAssertionHash : ∀ parent afterState inboxAcc data answer,
    rpc.call rollupAddress (.computeAssertionHash parent afterState inboxAcc) = .ok data →
      alloy.decodeReturns data = .ok answer →
        answer = world.assertionHash parent afterState inboxAcc

variable {world}

/-- Over an honest server, the first call can only return the confirmed assertion's hash. -/
theorem Honest.callLatestConfirmed {heliosRpc : Endpoint HeliosRpc} {rollupAddress : Address}
    (honest : ∀ rpc, heliosRpc = .ok rpc → world.Honest rollupAddress rpc) {answer : B256}
    (ok : Zkhood.callLatestConfirmed alloy heliosRpc rollupAddress = .ok answer) :
    answer = world.confirmedAssertionHash := by
  simp only [Zkhood.callLatestConfirmed, bind_eq_ok_iff, mapError_eq_ok_iff] at ok
  rcases ok with ⟨rpc, connected, data, called, decoded⟩
  exact (honest rpc connected).latestConfirmed data answer called decoded

theorem Honest.callComputeAssertionHash {heliosRpc : Endpoint HeliosRpc} {rollupAddress : Address}
    (honest : ∀ rpc, heliosRpc = .ok rpc → world.Honest rollupAddress rpc)
    {parent inboxAcc answer : B256} {afterState : AssertionState}
    (ok : Zkhood.callComputeAssertionHash alloy heliosRpc rollupAddress parent afterState inboxAcc =
      .ok answer) : answer = world.assertionHash parent afterState inboxAcc := by
  simp only [Zkhood.callComputeAssertionHash, bind_eq_ok_iff, mapError_eq_ok_iff] at ok
  rcases ok with ⟨rpc, connected, data, called, decoded⟩
  exact (honest rpc connected).computeAssertionHash parent afterState inboxAcc data answer called
    decoded

/-- Whatever the L1 RPC answers, an anchor is the confirmed block. -/
theorem l2BlockHash_eq (collisionFree : world.CollisionFree) {heliosRpc : Endpoint HeliosRpc}
    {l1Rpc : Endpoint L1Rpc} {network : NetworkConfig} {anchor : VerifiedL2Anchor}
    (honest : ∀ rpc, heliosRpc = .ok rpc → world.Honest network.rollupAddress rpc)
    (anchored : verifyLatestL2Anchor alloy heliosRpc l1Rpc network = .ok anchor) :
    anchor.l2BlockHash = alloy.hashSlow world.header := by
  rcases verifyLatestL2Anchor_ok anchored with
    ⟨parent, afterState, inboxAcc, latest, computed, block_hash⟩
  have confirmed := Honest.callLatestConfirmed honest latest
  have recomputed := Honest.callComputeAssertionHash honest computed
  rw [confirmed] at recomputed
  rw [block_hash, (collisionFree.assertion parent afterState inboxAcc recomputed.symm).2.1,
    world.committed]

/-- Whatever the L2 RPC answers, a block fetched by the hash of the confirmed one has its state
root. -/
theorem stateRoot_eq (collisionFree : world.CollisionFree) {l2Rpc : Endpoint L2Rpc}
    {block : VerifiedL2Block}
    (rooted : fetchVerifiedStateRoot alloy l2Rpc (alloy.hashSlow world.header) = .ok block) :
    block.hash = alloy.hashSlow world.header ∧ block.stateRoot = world.header.stateRoot := by
  rcases fetchVerifiedStateRoot_ok rooted with ⟨header, matching, rfl⟩
  rw [collisionFree.header header matching]
  exact ⟨rfl, rfl⟩

end ConfirmedBlock

/-- The fields of a response are those of the account, or it has none. -/
def EIP1186AccountProofResponse.Describes (proof : EIP1186AccountProofResponse)
    (state : L2State) (address : Address) : Prop :=
  if proof.isEmpty then state.leaf address = none
  else state.leaf address = some
    { nonce := proof.nonce
      balance := proof.balance
      storageRoot := proof.storageHash
      codeHash := proof.codeHash }

section Proofs

variable {alloy : Alloy} {tries : Tries alloy} {stateRoot : B256} {state : L2State}
  {address : Address} {proof : EIP1186AccountProofResponse}

/-- A response whose account proof is accepted describes the state's account. -/
theorem Tries.Holds.describes (holds : tries.Holds stateRoot state)
    (verified : alloy.verifyProof stateRoot (accountKey alloy address) proof.expectedAccountRlp
      proof.accountProof = .ok ()) : proof.Describes state address := by
  rcases tries.sound _ _ _ _ verified with ⟨trie, found, expected⟩
  rcases holds.accounts with ⟨held, at_root, leaves⟩
  rw [at_root, Option.some.injEq] at found
  rw [← found, leaves] at expected
  rw [EIP1186AccountProofResponse.expectedAccountRlp] at expected
  rw [EIP1186AccountProofResponse.Describes]
  split at expected
  · rename_i empty
    rw [if_pos empty]
    exact Option.map_eq_none_iff.mp expected
  · rename_i nonempty
    rw [if_neg nonempty]
    rcases Option.map_eq_some_iff.mp expected with ⟨leaf, is_leaf, encoded⟩
    rw [is_leaf, TrieAccount.rlpEncode_injective encoded]

theorem EIP1186AccountProofResponse.isEmpty_iff : proof.isEmpty ↔
    proof.nonce = 0 ∧ proof.balance = 0 ∧
      (proof.codeHash = 0 ∨ proof.codeHash = keccakEmpty) ∧
      (proof.storageHash = 0 ∨ proof.storageHash = EMPTY_ROOT_HASH) := by
  simp [isEmpty, and_assoc]

/-- An accepted storage proof shows the value of the slot. -/
theorem Tries.Holds.slot_eq (holds : tries.Holds stateRoot state)
    (described : proof.Describes state address) {key value : U256} {nodes : List Bytes}
    (verified : alloy.verifyProof proof.storageHash (slotKey alloy key) (expectedSlotRlp value)
      nodes = .ok ()) : value = state.slot address key := by
  rcases tries.sound _ _ _ _ verified with ⟨trie, found, expected⟩
  rw [EIP1186AccountProofResponse.Describes] at described
  split at described
  · rename_i empty
    rcases (EIP1186AccountProofResponse.isEmpty_iff.mp empty).2.2.2 with missing | unused
    · rw [missing, tries.zero] at found
      cases found
    · rw [unused, tries.empty, Option.some.injEq] at found
      rw [← found] at expected
      have zero : expectedSlotRlp value = expectedSlotRlp 0 := by rw [← expected]; rfl
      rw [expectedSlotRlp_injective zero, L2State.slot, described]
  · rcases holds.storage address _ described with ⟨held, at_root, slots⟩
    rw [at_root, Option.some.injEq] at found
    rw [← found, slots] at expected
    rw [L2State.slot, described]
    exact (expectedSlotRlp_injective expected).symm

end Proofs

namespace OneAccount

/-- The only account, which holds 100. -/
def leaf : TrieAccount where
  nonce := 0
  balance := 100
  storageRoot := EMPTY_ROOT_HASH
  codeHash := keccakEmpty

/-- The hashed byte strings and their digests. -/
def hashes : List (Bytes × B256) :=
  [([], keccakEmpty),
    ((0x11 : Address).toBeBytes 20,
      0xc0f4fde474181fca3d1fb6e0dc118a71457fe7cc5d4f1e426c92e1767eb885a0),
    ((0x22 : Address).toBeBytes 20,
      0xe36c0f154a365e086c687050cee74bddde9997a1dedeb0e55217368c0ab6baa4),
    ((1 : U256).toBeBytes 32,
      0xb10e2d527612073b26eecdfd717e6a320cf44b4afac2b0732d9fcbe2b7fa0cf6)]

/-- The hash on these byte strings, and 0 on all others. -/
def keccak256 (bytes : Bytes) : B256 := (hashes.lookup bytes).getD 0

theorem mem_hashes (bytes : Bytes) :
    keccak256 bytes = 0 ∨ (bytes, keccak256 bytes) ∈ hashes := by
  cases found : hashes.lookup bytes with
  | none => exact Or.inl (by rw [keccak256, found]; rfl)
  | some hash =>
      rcases List.lookup_eq_some_iff.mp found with ⟨front, back, split, -⟩
      exact Or.inr (by rw [keccak256, found, split]; simp)

/-- The hash of the example has no second preimage of its digests. -/
theorem eq_of_keccak256_eq {bytes : Bytes} (entry : Bytes × B256) (entry_mem : entry ∈ hashes)
    (same : keccak256 bytes = entry.2) : bytes = entry.1 := by
  have nonzero : ∀ entry ∈ hashes, entry.2 ≠ 0 := by decide
  have distinct : ∀ entry ∈ hashes, ∀ other ∈ hashes, entry.2 = other.2 → entry.1 = other.1 := by
    decide
  rcases mem_hashes bytes with zero | known
  · exact absurd (same.symm.trans zero) (nonzero entry entry_mem)
  · exact distinct _ known _ entry_mem same

/-- The path of the account. -/
def key : Nibbles := Nibbles.unpack ((keccak256 ((0x11 : Address).toBeBytes 20)).toBeBytes 32)

/-- The only node of the state trie, a leaf whose path is the whole key. -/
def node : Bytes :=
  let path := (keccak256 ((0x11 : Address).toBeBytes 20)).toBeBytes 32
  Rlp.encodeList [Rlp.encodeString (0x20 :: path), Rlp.encodeString leaf.rlpEncode]

/-- The hash of the state trie's node. -/
def stateRoot : B256 := 0x4114aabbb516c7810b657ae6f3b980160d0071b77b3d8aaf87d1a94ec435e9bf

/-- The state trie, whose only leaf is the account. -/
def stateTrie : Trie := fun path => if path = key then some leaf.rlpEncode else none

/-- Proofs in the state trie and in the empty one. -/
def verifyProof (root : B256) (path : Nibbles) (expected : Option Bytes) (proof : List Bytes) :
    Except String Unit :=
  if (root = stateRoot ∧ expected = stateTrie path ∧ proof = [node]) ∨
      (root = EMPTY_ROOT_HASH ∧ expected = none ∧ proof = []) then .ok ()
  else .error "proof mismatch"

/-- The block's header; `rest` is the encoding of its other fields. -/
def header : Header where
  number := 1
  stateRoot := stateRoot
  rest :=
    Rlp.encodeString (List.replicate 32 0) ++
    Rlp.encodeString ((0x1dcc4de8dec75d7aab85b567b6ccd41ad312451b948a7413f0a142fd40d49347 :
      B256).toBeBytes 32) ++
    Rlp.encodeString (List.replicate 20 0) ++
    Rlp.encodeString (EMPTY_ROOT_HASH.toBeBytes 32) ++
    Rlp.encodeString (EMPTY_ROOT_HASH.toBeBytes 32) ++
    Rlp.encodeString (List.replicate 256 0) ++ Rlp.encodeUint 32 (1 : U256) ++
    Rlp.encodeUint 8 (30000000 : U64) ++ Rlp.encodeUint 8 (0 : U64) ++
    Rlp.encodeUint 8 (1 : U64) ++ Rlp.encodeString [] ++
    Rlp.encodeString (List.replicate 32 0) ++ Rlp.encodeString (List.replicate 8 0) ++
    Rlp.encodeUint 32 (0 : U256)

/-- The fields in their order: the state root is the fourth and the number the ninth. -/
def headerRlp (header : Header) : Bytes :=
  Rlp.encodeList [header.rest.take 87, Rlp.encodeString (header.stateRoot.toBeBytes 32),
    (header.rest.drop 87).take 326, Rlp.encodeUint 8 header.number, header.rest.drop 413]

/-- The hash of the header's encoding. -/
def blockHash : B256 := 0x87f99f0cbee8fdd39c60129bbee5949de2815a492068d33abade8876c5d0091f

/-- An assertion state which commits to the block. -/
def afterState : AssertionState where
  globalState := { bytes32Vals := (blockHash, 0), u64Vals := (1, 0) }
  machineStatus := .finished
  endHistoryRoot := 0

/-- Some words, each with 32 bytes. -/
def words (values : List U256) : Bytes := values.flatMap (BitVec.toBeBytes 32)

/-- The hash of the assertion with this state. -/
def confirmedAssertionHash : B256 :=
  0x74290cc9d0f21baec28bb7ef78f31415f31e314e0697e1d9c06740e9aa133f8a

/-- The contract's hash of the confirmed assertion, and 0 for all others. -/
def assertionHash (parent : B256) (state : AssertionState) (inboxAcc : B256) : B256 :=
  if parent = 1 ∧ state = afterState ∧ inboxAcc = 2 then confirmedAssertionHash else 0

/-- The word at an index. -/
def word (data : Bytes) (index : ℕ) : B256 :=
  BitVec.ofBeBytes 256 ((data.drop (32 * index)).take 32)

/-- Decodes a single word. -/
def decodeReturns (data : Bytes) : Except String B256 :=
  if data.length = 32 then .ok (word data 0) else .error "type check failed"

/-- Decodes the indexed parent, the after-state and the inbox accumulator of an event. -/
def decodeLog (log : Log) : Except String AssertionCreated :=
  match log.topics, (word log.data 17).toNat with
  | [_, _, parent], 1 =>
      if log.data.length = 800 then
        .ok { parentAssertionHash := parent
              assertion := { afterState :=
                { globalState :=
                    { bytes32Vals := (word log.data 13, word log.data 14)
                      u64Vals := ((word log.data 15).setWidth 64, (word log.data 16).setWidth 64) }
                  machineStatus := .finished
                  endHistoryRoot := word log.data 18 } }
              afterInboxBatchAcc := word log.data 19 }
      else .error "type check failed"
  | _, _ => .error "type check failed"

/-- The library, on the values of the example. -/
def alloy : Alloy where
  keccak256 := keccak256
  isBytecode := Bytecode.isWellFormed
  decodeReturns := decodeReturns
  decodeLog := decodeLog
  hashSlow other := if other = header then blockHash else 0
  verifyProof := verifyProof

/-- The state trie and the empty one. -/
def tries : Tries alloy where
  trieAt root :=
    if root = stateRoot then some stateTrie
    else if root = EMPTY_ROOT_HASH then some fun _ => none
    else none
  sound := by
    intro root path expected proof accepted
    have distinct : EMPTY_ROOT_HASH ≠ stateRoot := by decide
    change verifyProof root path expected proof = .ok () at accepted
    rw [verifyProof] at accepted
    split at accepted
    · rename_i shown
      rcases shown with ⟨rfl, rfl, -⟩ | ⟨rfl, rfl, -⟩
      · exact ⟨stateTrie, if_pos rfl, rfl⟩
      · exact ⟨fun _ => none, by rw [if_neg distinct, if_pos rfl], rfl⟩
    · cases accepted
  empty := by rw [if_neg (by decide), if_pos rfl]
  zero := by rw [if_neg (by decide), if_neg (by decide)]

/-- The state which the tries hold. -/
def state : L2State where
  leaf address := if address = 0x11 then some leaf else none
  storage _ _ := 0
  code _ := []

theorem leaf_eq {address : Address} {found : TrieAccount}
    (is_leaf : state.leaf address = some found) : address = 0x11 ∧ found = leaf := by
  simp only [state, Option.ite_none_right_eq_some, Option.some.injEq] at is_leaf
  exact ⟨is_leaf.1, is_leaf.2.symm⟩

theorem eq_of_unpack_keccak256_eq {bytes : Bytes} (entry : Bytes × B256)
    (entry_mem : entry ∈ hashes)
    (same : Nibbles.unpack ((keccak256 bytes).toBeBytes 32) =
      Nibbles.unpack (entry.2.toBeBytes 32)) : bytes = entry.1 := by
  have nonzero : ∀ entry ∈ hashes,
      Nibbles.unpack ((0 : B256).toBeBytes 32) ≠ Nibbles.unpack (entry.2.toBeBytes 32) := by
    decide +kernel
  have distinct : ∀ entry ∈ hashes, ∀ other ∈ hashes,
      Nibbles.unpack (entry.2.toBeBytes 32) = Nibbles.unpack (other.2.toBeBytes 32) →
        entry.1 = other.1 := by
    decide +kernel
  rcases mem_hashes bytes with zero | known
  · rw [zero] at same
    exact absurd same (nonzero entry entry_mem)
  · exact distinct _ known entry entry_mem same

theorem accountKey_eq_key_iff (address : Address) : accountKey alloy address = key ↔
    address = 0x11 := by
  constructor
  · intro same
    exact BitVec.toBeBytes_inj (by norm_num)
      (eq_of_unpack_keccak256_eq ((0x11 : Address).toBeBytes 20, _) (by decide) same)
  · rintro rfl
    rfl

theorem holds : tries.Holds stateRoot state where
  accounts := by
    refine ⟨stateTrie, by simp only [tries, if_true], ?_⟩
    intro address
    simp only [stateTrie, accountKey_eq_key_iff, state]
    split <;> rfl
  storage := by
    intro address found is_leaf
    rw [(leaf_eq is_leaf).2]
    exact ⟨fun _ => none, tries.empty, fun _ => rfl⟩
  code := by
    intro address found is_leaf
    rw [(leaf_eq is_leaf).2]
    rfl

/-- The confirmed block of the example. -/
def world : ConfirmedBlock alloy where
  assertionHash := assertionHash
  parentAssertionHash := 1
  afterState := afterState
  inboxAcc := 2
  header := header
  tries := tries
  state := state
  committed := by simp [alloy, afterState, GlobalState.l2BlockHash]
  holds := holds

theorem collisionFree : world.CollisionFree where
  assertion := by
    intro parent after inboxAcc same
    simp only [ConfirmedBlock.confirmedAssertionHash, world, assertionHash, and_self,
      if_true] at same
    split at same
    · assumption
    · exact absurd same (by decide)
  header := by
    intro other same
    simp only [world, alloy, if_true] at same
    split at same
    · assumption
    · exact absurd same (by decide)
  code := by
    intro address found bytes is_leaf same
    exact eq_of_keccak256_eq ([], keccakEmpty) (by decide) same

/-- A sidecar which executes the contract. -/
def helios : HeliosRpc where
  call address call :=
    if address = NetworkConfig.testnet.rollupAddress then
      match call with
      | .latestConfirmed => .ok (confirmedAssertionHash.toBeBytes 32)
      | .computeAssertionHash parent state inboxAcc =>
          .ok ((assertionHash parent state inboxAcc).toBeBytes 32)
    else .error "execution reverted"

theorem decodeReturns_word (hash : B256) : decodeReturns (hash.toBeBytes 32) = .ok hash := by
  have whole : (hash.toBeBytes 32).take 32 = hash.toBeBytes 32 :=
    List.take_of_length_le (by simp)
  rw [decodeReturns, if_pos (by simp), word, List.drop_zero, whole,
    BitVec.ofBeBytes_toBeBytes (by norm_num)]

theorem honest : world.Honest NetworkConfig.testnet.rollupAddress helios where
  latestConfirmed := by
    intro data answer called decoded
    cases called
    exact Except.ok.inj (decoded.symm.trans (decodeReturns_word _))
  computeAssertionHash := by
    intro parent afterState inboxAcc data answer called decoded
    cases called
    exact Except.ok.inj (decoded.symm.trans (decodeReturns_word _))

/-- The log of the confirmed assertion. -/
def log : Log where
  topics := [0x901c3aee23cf4478825462caaab375c606ab83516060388344f0650340753630,
    confirmedAssertionHash, 1]
  data := words [0, 0, 0, 0, 0, 45818, 0, 0, 0, 0, 0, 1, 0, blockHash, 0, 1, 0, 1, 0, 2, 0, 0, 0, 0,
    45818]

/-- An L1 server with this log in block 10290000. -/
def l1 : L1Rpc where
  getBlockNumber := .ok 10300000
  getLogs filter :=
    if filter.topic1 = confirmedAssertionHash ∧ filter.fromBlock ≤ 10290000 ∧
      10290000 ≤ filter.toBlock then .ok [log]
    else .ok []

/-- An L2 server with the block, its state and their proofs. -/
def l2 : L2Rpc where
  getBlockByHash hash := if hash = blockHash then .ok (some header) else .ok none
  getProof address slots hash :=
    if hash = blockHash then
      .ok { balance := if address = 0x11 then leaf.balance else 0
            nonce := 0
            codeHash := keccakEmpty
            storageHash := EMPTY_ROOT_HASH
            accountProof := [node]
            storageProof := slots.map fun slot => { key := .hash slot, value := 0, proof := [] } }
    else .error "missing trie node"
  getCodeAt _ _ := .ok []

theorem decodeLog_log : decodeLog log =
    .ok { parentAssertionHash := 1, assertion := ⟨afterState⟩, afterInboxBatchAcc := 2 } := by
  decide +kernel

theorem fetchAssertionCreated_eq :
    fetchAssertionCreated alloy (.ok l1) NetworkConfig.testnet.rollupAddress confirmedAssertionHash
      NetworkConfig.testnet.rollupDeployBlock = .ok (1, afterState, 2) := by
  have found : l1.getLogs ⟨NetworkConfig.testnet.rollupAddress, confirmedAssertionHash,
      windowStart 10300000 NetworkConfig.testnet.rollupDeployBlock, 10300000⟩ = .ok [log] := by
    simp only [l1]
    exact if_pos (by decide)
  change scanWindows alloy l1 _ _ _ 10300000 10300000 = _
  rw [scanWindows]
  simp only [found, alloy, decodeLog_log]

/-- The servers of the example lead to the anchor. -/
theorem anchored : verifyLatestL2Anchor alloy (.ok helios) (.ok l1) .testnet =
    .ok { confirmedAssertionHash, l2BlockHash := blockHash, l2SendRoot := 0 } := by
  have latest : callLatestConfirmed alloy (.ok helios) NetworkConfig.testnet.rollupAddress =
      .ok confirmedAssertionHash := by
    decide +kernel
  have computed : callComputeAssertionHash alloy (.ok helios) NetworkConfig.testnet.rollupAddress 1
      afterState 2 = .ok confirmedAssertionHash := by
    decide +kernel
  simp only [verifyLatestL2Anchor, latest, fetchAssertionCreated_eq, computed, bind, Except.bind,
    ensure, if_true]
  rfl

theorem rooted : fetchVerifiedStateRoot alloy (.ok l2) blockHash =
    .ok { number := 1, hash := blockHash, stateRoot } := by
  decide +kernel

/-- The constants are the hashes they stand for. -/
example :
    (∀ entry ∈ hashes, keccak256 entry.1 = Keccak.hash entry.1) ∧
      stateRoot = Keccak.hash node ∧ blockHash = Keccak.hash (headerRlp header) ∧
      confirmedAssertionHash =
        Keccak.hash (words [1, Keccak.hash (words [blockHash, 0, 1, 0, 1, 0]), 2]) := by
  decide +kernel

end OneAccount

end Zkhood
