import Zkhood.Bridge.L2State

/-!
# What a fetch covers

A successful `fetchAccount` has recorded the true account, and the true value of
every slot for which the server returned a storage proof. It does not check that
the server returned the proofs it was asked for: a slot without one keeps what
the provider answered before.

`OneSlot` is an L2 with a single account which has a single slot.
-/

namespace Zkhood

/-- No other bytes have the hash of an account's code. -/
def L2State.CodeCollisionFree (alloy : Alloy) (state : L2State) : Prop :=
  ∀ address leaf bytes, state.leaf address = some leaf →
    alloy.keccak256 bytes = alloy.keccak256 (state.code leaf.codeHash) →
      bytes = state.code leaf.codeHash

section Account

variable {alloy : Alloy} {tries : Tries alloy} {stateRoot : B256} {state : L2State}
  {address : Address} {proof : EIP1186AccountProofResponse} {code : Option Bytecode}

theorem Tries.Holds.code_eq (holds : tries.Holds stateRoot state)
    (collisionFree : state.CodeCollisionFree alloy) {leaf : TrieAccount}
    (is_leaf : state.leaf address = some leaf) {bytes : Bytes}
    (hashed : alloy.keccak256 bytes = leaf.codeHash) : bytes = state.code leaf.codeHash := by
  apply collisionFree address leaf bytes is_leaf
  rw [hashed, holds.code address leaf is_leaf]

/-- The code which was fetched for an account with a leaf is its code. -/
theorem Tries.Holds.fetched_code_eq (holds : tries.Holds stateRoot state)
    (collisionFree : state.CodeCollisionFree alloy) (keccak_nil : alloy.keccak256 [] = keccakEmpty)
    (described : proof.Describes state address) {rpc : L2Rpc} {block : VerifiedL2Block}
    (fetched : VerifiedStateProvider.fetchCode alloy rpc block address proof = .ok code)
    (nonempty : ¬proof.isEmpty) :
    code.getD Bytecode.default = ⟨state.code proof.codeHash⟩ := by
  rw [EIP1186AccountProofResponse.Describes, if_neg nonempty] at described
  rcases VerifiedStateProvider.fetchCode_ok fetched with
    ⟨rfl, codeless⟩ | ⟨bytes, -, hashed, rfl, -, -⟩
  · have codeless_hash : alloy.keccak256 [] = proof.codeHash := by
      rw [keccak_nil, codeless.resolve_left nonempty]
    rw [← holds.code_eq collisionFree described codeless_hash]
    rfl
  · rw [← holds.code_eq collisionFree described hashed]
    rfl

/-- The account made from a response is the one in the state, if its code is. -/
theorem EIP1186AccountProofResponse.Describes.info_eq (described : proof.Describes state address)
    (unfetched : proof.isEmpty → code = none)
    (fetched : ¬proof.isEmpty →
      code.getD Bytecode.default = ⟨state.code proof.codeHash⟩) :
    AccountInfo.new proof.balance proof.nonce
        (if proof.isEmpty then keccakEmpty else proof.codeHash) (code.getD Bytecode.default) =
      state.info address := by
  rw [Describes] at described
  split at described
  · rename_i empty
    rcases isEmpty_iff.mp empty with ⟨nonce, balance, -, -⟩
    rw [L2State.info, described, if_pos empty, nonce, balance, unfetched empty]
    rfl
  · rename_i nonempty
    rw [L2State.info, described, if_neg nonempty, fetched nonempty]

theorem unfetched_of_isEmpty {rpc : L2Rpc} {block : VerifiedL2Block}
    (fetched : VerifiedStateProvider.fetchCode alloy rpc block address proof = .ok code)
    (empty : proof.isEmpty) : code = none := by
  rcases VerifiedStateProvider.fetchCode_ok fetched with ⟨rfl, -⟩ | ⟨_, -, -, -, nonempty, -⟩
  · rfl
  · exact absurd empty nonempty

/-- The account made from a proved response and the fetched code is the one in the state. -/
theorem Tries.Holds.info_eq (holds : tries.Holds stateRoot state)
    (collisionFree : state.CodeCollisionFree alloy) (keccak_nil : alloy.keccak256 [] = keccakEmpty)
    (described : proof.Describes state address) {rpc : L2Rpc} {block : VerifiedL2Block}
    (fetched : VerifiedStateProvider.fetchCode alloy rpc block address proof = .ok code) :
    AccountInfo.new proof.balance proof.nonce
        (if proof.isEmpty then keccakEmpty else proof.codeHash) (code.getD Bytecode.default) =
      state.info address :=
  described.info_eq (unfetched_of_isEmpty fetched)
    (holds.fetched_code_eq collisionFree keccak_nil described fetched)

end Account

section Fetch

variable {alloy : Alloy} {state : L2State} {address : Address} {slots : List U256}
  {provider next : VerifiedStateProvider}

/-- The steps of a successful fetch. -/
theorem fetchAccount_eq_ok_iff {l2Rpc : Endpoint L2Rpc} :
    provider.fetchAccount alloy l2Rpc address slots = (next, .ok ()) ↔
      ∃ rpc proof stored code,
        provider.proveAccount alloy l2Rpc address slots = .ok (rpc, proof) ∧
        provider.recordStorage alloy address proof.storageHash proof.storageProof =
          (stored, .ok ()) ∧
        VerifiedStateProvider.fetchCode alloy rpc stored.block address proof = .ok code ∧
        next = stored.recordAccount address proof code := by
  constructor
  · intro ok
    rw [VerifiedStateProvider.fetchAccount] at ok
    split at ok
    · cases ok
    · rename_i rpc proof proven
      split at ok
      · cases ok
      · rename_i stored recorded
        split at ok
        · cases ok
        · rename_i code fetched
          cases ok
          exact ⟨rpc, proof, stored, code, proven, recorded, fetched, rfl⟩
  · rintro ⟨rpc, proof, stored, code, proven, recorded, fetched, rfl⟩
    simp only [VerifiedStateProvider.fetchAccount, proven, recorded, fetched]

/-- All slots are recorded exactly if all their proofs are accepted. -/
theorem recordStorage_eq_ok_iff {storageHash : B256} {storageProofs : List EIP1186StorageProof} :
    (∃ next, provider.recordStorage alloy address storageHash storageProofs = (next, .ok ())) ↔
      ∀ storageProof ∈ storageProofs,
        alloy.verifyProof storageHash (slotKey alloy storageProof.key.asB256)
          (expectedSlotRlp storageProof.value) storageProof.proof = .ok () := by
  induction storageProofs generalizing provider with
  | nil => exact iff_of_true ⟨provider, rfl⟩ (List.forall_mem_nil _)
  | cons storageProof rest ih =>
      rw [VerifiedStateProvider.recordStorage, List.forall_mem_cons]
      split
      · rename_i report rejected
        rw [rejected]
        simp
      · rename_i accepted
        rw [ih, accepted]
        simp

/-- Only storage changes, and only in slots of the address with a proof. -/
theorem recordStorage_ok {next : VerifiedStateProvider} {address : Address} {storageHash : B256}
    {storageProofs : List EIP1186StorageProof}
    (ok : provider.recordStorage alloy address storageHash storageProofs = (next, .ok ())) :
    next.accounts = provider.accounts ∧ next.code = provider.code ∧ next.block = provider.block ∧
      ∀ other index, (other, index) ∈ next.storage ↔ (other, index) ∈ provider.storage ∨
        (other = address ∧
          index ∈ storageProofs.map fun storageProof => storageProof.key.asB256) := by
  induction storageProofs generalizing provider with
  | nil =>
      cases ok
      simp
  | cons storageProof rest ih =>
      rw [VerifiedStateProvider.recordStorage] at ok
      split at ok
      · cases ok
      · rcases ih ok with ⟨accounts, code, block, storage⟩
        refine ⟨accounts, code, block, ?_⟩
        intro other index
        rw [storage]
        simp only [Std.ExtTreeMap.mem_insert, Std.compare_eq_iff_eq, Prod.mk.injEq, List.map_cons,
          List.mem_cons]
        grind

/-- Storage proofs which show the true values leave every slot they are about with its value. -/
theorem storage_recordStorage {storageHash : B256} {storageProofs : List EIP1186StorageProof}
    (ok : provider.recordStorage alloy address storageHash storageProofs = (next, .ok ()))
    (values : ∀ storageProof ∈ storageProofs,
      storageProof.value = state.slot address storageProof.key.asB256) (index : U256) :
    next.storage[(address, index)]? =
      if ∃ storageProof ∈ storageProofs, storageProof.key.asB256 = index then
        some (state.slot address index)
      else provider.storage[(address, index)]? := by
  induction storageProofs generalizing provider with
  | nil =>
      cases ok
      simp
  | cons storageProof rest ih =>
      rw [List.forall_mem_cons] at values
      rw [VerifiedStateProvider.recordStorage] at ok
      split at ok
      · cases ok
      · rw [ih ok values.2, Std.ExtTreeMap.getElem?_insert]
        simp only [List.exists_mem_cons_iff]
        by_cases later : ∃ storageProof ∈ rest, storageProof.key.asB256 = index
        · simp only [later, or_true, if_true]
        · simp only [later, or_false, if_false, values.1]
          by_cases same : storageProof.key.asB256 = index
          · rw [if_pos same, same, if_pos Std.ReflCmp.compare_self]
          · rw [if_neg same, if_neg (by simpa using same)]

variable {tries : Tries alloy}

/-- A successful fetch leaves the true account, and the true values of exactly those slots for
which the server returned a storage proof, or which the provider answered truly before. -/
theorem fetchAccount_covers_iff (holds : tries.Holds provider.block.stateRoot state)
    (collisionFree : state.CodeCollisionFree alloy) (keccak_nil : alloy.keccak256 [] = keccakEmpty)
    {rpc : L2Rpc} {proof : EIP1186AccountProofResponse}
    (answered : rpc.getProof address slots provider.block.hash = .ok proof)
    (ok : provider.fetchAccount alloy (.ok rpc) address slots = (next, .ok ())) :
    next.databaseRef.basicRef address = .ok (some (state.info address)) ∧
      ((∀ slot ∈ slots,
        next.databaseRef.storageRef address slot = .ok (state.slot address slot)) ↔
      ∀ slot ∈ slots, (∃ storageProof ∈ proof.storageProof, storageProof.key.asB256 = slot) ∨
        provider.databaseRef.storageRef address slot = .ok (state.slot address slot)) := by
  rcases fetchAccount_eq_ok_iff.mp ok with
    ⟨_, answer, stored, code, proven, recorded, fetched, rfl⟩
  rcases VerifiedStateProvider.proveAccount_ok proven with ⟨⟨⟩, response, verified⟩
  cases answered.symm.trans response
  have described := holds.describes verified
  constructor
  · have info := holds.info_eq collisionFree keccak_nil described fetched
    simp only [VerifiedStateProvider.databaseRef, VerifiedStateProvider.recordAccount, info,
      Std.ExtTreeMap.getElem?_insert_self]
  · have accepted := recordStorage_eq_ok_iff.mp ⟨stored, recorded⟩
    have storage := storage_recordStorage recorded fun storageProof storageProof_mem =>
      holds.slot_eq described (accepted storageProof storageProof_mem)
    refine forall₂_congr fun slot _ => ?_
    simp only [VerifiedStateProvider.databaseRef, VerifiedStateProvider.recordAccount, storage]
    by_cases shown : ∃ storageProof ∈ proof.storageProof, storageProof.key.asB256 = slot
    · rw [if_pos shown, Option.getD_some]
      exact iff_of_true rfl (Or.inl shown)
    · rw [if_neg shown, or_iff_right shown]

end Fetch

namespace OneSlot

open OneAccount (keccak256)

/-- The path of slot 1 in the storage trie. -/
def slotPath : Bytes := (keccak256 ((1 : U256).toBeBytes 32)).toBeBytes 32

/-- The only node of the storage trie, which holds 7 in slot 1. -/
def storageNode : Bytes :=
  Rlp.encodeList [Rlp.encodeString (0x20 :: slotPath),
    Rlp.encodeString (Rlp.encodeUint 32 (7 : U256))]

/-- The hash of the storage trie's node. -/
def storageRoot : B256 := 0x2e7827dc2c61c322f13f77e6f25dd18844ccc48426dde70301d2d57d138fced8

/-- The account at `0x11`, which has a storage trie. -/
def leaf : TrieAccount where
  nonce := 1
  balance := 0
  storageRoot := storageRoot
  codeHash := keccakEmpty

/-- The only node of the state trie. -/
def node : Bytes :=
  let path := (keccak256 ((0x11 : Address).toBeBytes 20)).toBeBytes 32
  Rlp.encodeList [Rlp.encodeString (0x20 :: path), Rlp.encodeString leaf.rlpEncode]

/-- The hash of the state trie's node. -/
def stateRoot : B256 := 0xb399915fad963b0415dc4dd3e66a6e72049117cd18948a74e74211421bb2b6ad

/-- The state trie, whose only leaf is the account. -/
def stateTrie : Trie := fun path => if path = OneAccount.key then some leaf.rlpEncode else none

/-- The storage trie, whose only leaf is slot 1. -/
def storageTrie : Trie := fun path =>
  if path = Nibbles.unpack slotPath then some (Rlp.encodeUint 32 (7 : U256)) else none

/-- The tries and the nodes which prove what they hold. -/
def trieAt (root : B256) : Option (Trie × List Bytes) :=
  if root = stateRoot then some (stateTrie, [node])
  else if root = storageRoot then some (storageTrie, [storageNode])
  else if root = EMPTY_ROOT_HASH then some (fun _ => none, [])
  else none

/-- A proof is accepted if it has the trie's nodes and shows what the trie holds. -/
def verifyProof (root : B256) (path : Nibbles) (expected : Option Bytes) (proof : List Bytes) :
    Except String Unit :=
  match trieAt root with
  | some (trie, nodes) =>
      if expected = trie path ∧ proof = nodes then .ok () else .error "proof mismatch"
  | none => .error "proof mismatch"

/-- The library of the example with these tries. -/
def alloy : Alloy := { OneAccount.alloy with verifyProof := verifyProof }

/-- The tries behind the three roots. -/
def tries : Tries alloy where
  trieAt root := (trieAt root).map Prod.fst
  sound := by
    intro root path expected proof accepted
    change verifyProof root path expected proof = .ok () at accepted
    rw [verifyProof] at accepted
    split at accepted
    · rename_i trie nodes found
      split at accepted
      · rename_i shown
        exact ⟨trie, by rw [found]; rfl, shown.1.symm⟩
      · cases accepted
    · cases accepted
  empty := by
    rw [trieAt, if_neg (by decide), if_neg (by decide), if_pos rfl]
    rfl
  zero := by
    rw [trieAt, if_neg (by decide), if_neg (by decide), if_neg (by decide)]
    rfl

/-- The state which the tries hold. -/
def state : L2State where
  leaf address := if address = 0x11 then some leaf else none
  storage _ index := if index = 1 then 7 else 0
  code _ := []

theorem leaf_eq {address : Address} {found : TrieAccount}
    (is_leaf : state.leaf address = some found) : found = leaf := by
  simp only [state, Option.ite_none_right_eq_some, Option.some.injEq] at is_leaf
  exact is_leaf.2.symm

theorem slotKey_eq_iff (slot : U256) : slotKey alloy slot = Nibbles.unpack slotPath ↔
    slot = 1 := by
  constructor
  · intro same
    exact BitVec.toBeBytes_inj (by norm_num)
      (OneAccount.eq_of_unpack_keccak256_eq ((1 : U256).toBeBytes 32, _) (by decide) same)
  · rintro rfl
    rfl

theorem holds : tries.Holds stateRoot state where
  accounts := by
    refine ⟨stateTrie, by simp [tries, trieAt], ?_⟩
    intro address
    have key := OneAccount.accountKey_eq_key_iff address
    change accountKey alloy address = _ ↔ _ at key
    simp only [stateTrie, key, state]
    split <;> rfl
  storage := by
    intro address found is_leaf
    rw [leaf_eq is_leaf]
    refine ⟨storageTrie, rfl, ?_⟩
    intro slot
    simp only [storageTrie, slotKey_eq_iff, state]
    by_cases first : slot = 1
    · simp only [if_pos first]
      rfl
    · simp only [if_neg first]
      rfl
  code := by
    intro address found is_leaf
    rw [leaf_eq is_leaf]
    rfl

theorem codeCollisionFree : state.CodeCollisionFree alloy := by
  intro address found bytes is_leaf same
  exact OneAccount.eq_of_keccak256_eq ([], keccakEmpty) (by decide) same

/-- A server which returns these storage proofs, whatever it is asked for. -/
def rpc (storageProof : List EIP1186StorageProof) : L2Rpc where
  getBlockByHash _ := .ok none
  getProof _ _ _ := .ok
    { balance := 0
      codeHash := keccakEmpty
      nonce := 1
      storageHash := storageRoot
      accountProof := [node]
      storageProof }
  getCodeAt _ _ := .ok []

/-- A provider for a block with this state root. -/
def provider : VerifiedStateProvider :=
  VerifiedStateProvider.new { number := 1, hash := 0xb10c, stateRoot }

/-- The constants are the hashes they stand for. -/
example : storageRoot = Keccak.hash storageNode ∧ stateRoot = Keccak.hash node := by
  decide +kernel

end OneSlot

/-- The server leaves the requested slot out, the fetch succeeds, and the slot reads 0. -/
theorem fetchAccount_leaves_slot_out :
    let result := OneSlot.provider.fetchAccount OneSlot.alloy (.ok (OneSlot.rpc [])) 0x11 [1]
    OneSlot.tries.Holds OneSlot.provider.block.stateRoot OneSlot.state ∧
      OneSlot.state.CodeCollisionFree OneSlot.alloy ∧
      result.2 = .ok () ∧ result.1.databaseRef.storageRef 0x11 1 = .ok 0 ∧
      OneSlot.state.slot 0x11 1 = 7 :=
  ⟨OneSlot.holds, OneSlot.codeCollisionFree, by decide +kernel⟩

open OneSlot in
/-- The server returns the proof of the slot twice. -/
theorem fetchAccount_covers_slot :
    let proofs := [{ key := .number 1, value := 7, proof := [storageNode] },
      { key := .hash 1, value := 7, proof := [storageNode] }]
    (provider.fetchAccount alloy (.ok (rpc proofs)) 0x11 [1]).1.databaseRef.storageRef 0x11 1 =
      .ok 7 := by
  intro proofs
  have ok : provider.fetchAccount alloy (.ok (rpc proofs)) 0x11 [1] =
      ((provider.fetchAccount alloy (.ok (rpc proofs)) 0x11 [1]).1, .ok ()) :=
    Prod.ext rfl (by decide +kernel)
  have covers := (fetchAccount_covers_iff holds codeCollisionFree (by decide) rfl ok).2
  refine covers.mpr ?_ 1 (List.mem_singleton_self 1)
  intro slot requested
  rw [List.mem_singleton.mp requested]
  exact Or.inl ⟨_, List.mem_cons_self, rfl⟩

end Zkhood
