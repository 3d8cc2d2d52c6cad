import Zkhood.Bridge.FetchAccount

/-!
# Fetches from an honest server

`fetchAccount` accepts the honest answer for every account which has something
in it, if its code is in a format of bytecode; on other code it panics. An
account without anything in it is taken to be missing from the trie, which its
own leaf refutes. The storage proofs of a missing account are checked against
the storage hash which the server reports, and no proof is accepted for a hash
of zero.
-/

namespace Zkhood

/-- The genuine proofs of the tries are accepted, and an empty proof only for the empty trie. -/
structure Tries.Complete {alloy : Alloy} (tries : Tries alloy)
    (Genuine : B256 → Nibbles → List Bytes → Prop) : Prop where
  genuine : ∀ root trie key proof, tries.trieAt root = some trie → Genuine root key proof →
    alloy.verifyProof root key (trie key) proof = .ok ()
  empty : ∀ root key expected, alloy.verifyProof root key expected [] = .ok () ↔
    root = EMPTY_ROOT_HASH ∧ expected = none

/-- The storage proofs are about the slots, in their order, and give their values. -/
def ShowSlots (value : U256 → U256) (Shown : U256 → List Bytes → Prop) (slots : List U256)
    (storageProofs : List EIP1186StorageProof) : Prop :=
  List.Forall₂ (fun slot storageProof => storageProof.key.asB256 = slot ∧
    storageProof.value = value slot ∧ Shown slot storageProof.proof) slots storageProofs

namespace EIP1186AccountProofResponse

/-- The response for an account with a leaf. -/
structure ShowsLeaf (proof : EIP1186AccountProofResponse) (alloy : Alloy)
    (Genuine : B256 → Nibbles → List Bytes → Prop) (leaf : TrieAccount) (storage : U256 → U256)
    (slots : List U256) : Prop where
  nonce : proof.nonce = leaf.nonce
  balance : proof.balance = leaf.balance
  storageHash : proof.storageHash = leaf.storageRoot
  codeHash : proof.codeHash = leaf.codeHash
  storageProof : ShowSlots storage
    (fun slot nodes => Genuine leaf.storageRoot (slotKey alloy slot) nodes) slots
    proof.storageProof

/-- The response for a missing account, in any of the forms in which servers report it. -/
structure ShowsAbsence (proof : EIP1186AccountProofResponse) (slots : List U256) : Prop where
  nonce : proof.nonce = 0
  balance : proof.balance = 0
  codeHash : proof.codeHash = 0 ∨ proof.codeHash = keccakEmpty
  storageHash : proof.storageHash = 0 ∨ proof.storageHash = EMPTY_ROOT_HASH
  storageProof : ShowSlots (fun _ => 0) (fun _ nodes => nodes = []) slots proof.storageProof

end EIP1186AccountProofResponse

/-- The server answers for the account and the slots with what the state holds. -/
structure L2Rpc.HonestFor (rpc : L2Rpc) (alloy : Alloy)
    (Genuine : B256 → Nibbles → List Bytes → Prop) (state : L2State) (block : VerifiedL2Block)
    (address : Address) (slots : List U256) (proof : EIP1186AccountProofResponse) : Prop where
  answered : rpc.getProof address slots block.hash = .ok proof
  accountProof : Genuine block.stateRoot (accountKey alloy address) proof.accountProof
  present : ∀ leaf, state.leaf address = some leaf →
    proof.ShowsLeaf alloy Genuine leaf (state.storage address) slots
  absent : state.leaf address = none → proof.ShowsAbsence slots
  code : ∀ leaf, state.leaf address = some leaf →
    rpc.getCodeAt address block.hash = .ok (state.code leaf.codeHash)

/-- The provider answers for the account and the slots with what the state holds. -/
structure VerifiedStateProvider.Records (self : VerifiedStateProvider) (state : L2State)
    (address : Address) (slots : List U256) : Prop where
  account : self.databaseRef.basicRef address = .ok (some (state.info address))
  storage : ∀ slot ∈ slots,
    self.databaseRef.storageRef address slot = .ok (state.slot address slot)
  code : ∀ leaf, state.leaf address = some leaf → leaf.codeHash ≠ keccakEmpty →
    self.databaseRef.codeByHashRef leaf.codeHash = .ok ⟨state.code leaf.codeHash⟩

section Honest

variable {alloy : Alloy} {tries : Tries alloy} {state : L2State} {provider : VerifiedStateProvider}
  {address : Address} {slots : List U256} {proof : EIP1186AccountProofResponse}
  {Genuine : B256 → Nibbles → List Bytes → Prop} {rpc : L2Rpc}

theorem EIP1186AccountProofResponse.ShowsAbsence.isEmpty (absence : proof.ShowsAbsence slots) :
    proof.isEmpty :=
  isEmpty_iff.mpr ⟨absence.nonce, absence.balance, absence.codeHash, absence.storageHash⟩

theorem EIP1186AccountProofResponse.Describes.expectedAccountRlp_eq
    (described : proof.Describes state address) :
    proof.expectedAccountRlp = (state.leaf address).map TrieAccount.rlpEncode := by
  rw [Describes] at described
  rw [expectedAccountRlp]
  split at described
  · rename_i empty
    rw [if_pos empty, described, Option.map_none]
  · rename_i nonempty
    rw [if_neg nonempty, described, Option.map_some]

theorem ShowSlots.forall_mem {value : U256 → U256} {Shown : U256 → List Bytes → Prop}
    {storageProofs : List EIP1186StorageProof}
    (shows_slots : ShowSlots value Shown slots storageProofs) {storageProof : EIP1186StorageProof}
    (storageProof_mem : storageProof ∈ storageProofs) :
    storageProof.key.asB256 ∈ slots ∧ storageProof.value = value storageProof.key.asB256 ∧
      Shown storageProof.key.asB256 storageProof.proof := by
  rcases List.exists_mem_of_forall₂ shows_slots.flip storageProof_mem with
    ⟨slot, slot_mem, rfl, shown⟩
  exact ⟨slot_mem, shown⟩

theorem ShowSlots.exists_mem {value : U256 → U256} {Shown : U256 → List Bytes → Prop}
    {storageProofs : List EIP1186StorageProof}
    (shows_slots : ShowSlots value Shown slots storageProofs) {slot : U256}
    (requested : slot ∈ slots) :
    ∃ storageProof ∈ storageProofs, storageProof.key.asB256 = slot := by
  rcases List.exists_mem_of_forall₂ shows_slots requested with
    ⟨storageProof, storageProof_mem, same, -⟩
  exact ⟨storageProof, storageProof_mem, same⟩

theorem L2Rpc.HonestFor.exists_storageProof {block : VerifiedL2Block}
    (honest : rpc.HonestFor alloy Genuine state block address slots proof) {slot : U256}
    (requested : slot ∈ slots) :
    ∃ storageProof ∈ proof.storageProof, storageProof.key.asB256 = slot := by
  cases is_leaf : state.leaf address with
  | none => exact (honest.absent is_leaf).storageProof.exists_mem requested
  | some leaf => exact (honest.present leaf is_leaf).storageProof.exists_mem requested

theorem L2Rpc.HonestFor.requested {block : VerifiedL2Block}
    (honest : rpc.HonestFor alloy Genuine state block address slots proof)
    {storageProof : EIP1186StorageProof} (storageProof_mem : storageProof ∈ proof.storageProof) :
    storageProof.key.asB256 ∈ slots := by
  cases is_leaf : state.leaf address with
  | none => exact ((honest.absent is_leaf).storageProof.forall_mem storageProof_mem).1
  | some leaf => exact ((honest.present leaf is_leaf).storageProof.forall_mem storageProof_mem).1

/-- An honest response describes the account, unless its leaf is taken for a missing one. -/
theorem L2Rpc.HonestFor.describes
    (honest : rpc.HonestFor alloy Genuine state provider.block address slots proof)
    (nonempty : ∀ leaf, state.leaf address = some leaf → ¬proof.isEmpty) :
    proof.Describes state address := by
  rw [EIP1186AccountProofResponse.Describes]
  cases is_leaf : state.leaf address with
  | none => rw [if_pos (honest.absent is_leaf).isEmpty]
  | some leaf =>
      have shown := honest.present leaf is_leaf
      rw [if_neg (nonempty leaf is_leaf), shown.nonce, shown.balance, shown.storageHash,
        shown.codeHash]

/-- The values in an honest response are those in the state. -/
theorem L2Rpc.HonestFor.value_eq
    (honest : rpc.HonestFor alloy Genuine state provider.block address slots proof)
    {storageProof : EIP1186StorageProof} (storageProof_mem : storageProof ∈ proof.storageProof) :
    storageProof.value = state.slot address storageProof.key.asB256 := by
  rw [L2State.slot]
  cases is_leaf : state.leaf address with
  | none => exact ((honest.absent is_leaf).storageProof.forall_mem storageProof_mem).2.1
  | some leaf => exact ((honest.present leaf is_leaf).storageProof.forall_mem storageProof_mem).2.1

/-- The code of the account is in a format of bytecode, or is not fetched. -/
def L2State.HasFormat (state : L2State) (alloy : Alloy) (address : Address) : Prop :=
  ∀ leaf, state.leaf address = some leaf →
    leaf.codeHash = keccakEmpty ∨ alloy.isBytecode (state.code leaf.codeHash)

/-- An honest server's code passes the check, and is in a format of bytecode. -/
theorem L2Rpc.HonestFor.fetchCode_eq (holds : tries.Holds provider.block.stateRoot state)
    (honest : rpc.HonestFor alloy Genuine state provider.block address slots proof)
    (format : state.HasFormat alloy address) :
    VerifiedStateProvider.fetchCode alloy rpc provider.block address proof =
      .ok (if proof.isEmpty ∨ proof.codeHash = keccakEmpty then none
        else some ⟨state.code proof.codeHash⟩) := by
  rw [VerifiedStateProvider.fetchCode]
  by_cases codeless : proof.isEmpty ∨ proof.codeHash = keccakEmpty
  · have skipped : (proof.isEmpty || proof.codeHash == keccakEmpty) = true := by
      simpa using codeless
    rw [if_pos skipped, if_pos codeless]
    rfl
  · have fetched : (proof.isEmpty || proof.codeHash == keccakEmpty) = false := by
      simpa using codeless
    cases is_leaf : state.leaf address with
    | none => exact absurd (Or.inl (honest.absent is_leaf).isEmpty) codeless
    | some leaf =>
        have hash := (honest.present leaf is_leaf).codeHash
        rw [hash] at codeless ⊢
        have read : Bytecode.newRaw alloy (state.code leaf.codeHash) =
            .ok ⟨state.code leaf.codeHash⟩ :=
          Bytecode.newRaw_eq_ok_iff.mpr
            ⟨(format leaf is_leaf).resolve_left (not_or.mp codeless).2, rfl⟩
        rw [if_neg (by simpa [hash] using fetched), if_neg codeless]
        simp only [honest.code leaf is_leaf, holds.code address leaf is_leaf, bind, Except.bind,
          mapError_ok, ensure, if_true, read]
        rfl

theorem L2Rpc.HonestFor.proveAccount_eq (holds : tries.Holds provider.block.stateRoot state)
    (complete : tries.Complete Genuine)
    (honest : rpc.HonestFor alloy Genuine state provider.block address slots proof)
    (described : proof.Describes state address) :
    provider.proveAccount alloy (.ok rpc) address slots = .ok (rpc, proof) := by
  rcases holds.accounts with ⟨trie, at_root, leaves⟩
  have verified := complete.genuine _ trie _ _ at_root honest.accountProof
  rw [leaves, ← described.expectedAccountRlp_eq] at verified
  simp only [VerifiedStateProvider.proveAccount, honest.answered, verified, mapError_ok, bind,
    Except.bind]
  rfl

/-- The storage proofs of an account with a leaf are accepted, and those of a missing account if
they are checked against the empty trie. -/
theorem L2Rpc.HonestFor.storage_accepted (holds : tries.Holds provider.block.stateRoot state)
    (complete : tries.Complete Genuine)
    (honest : rpc.HonestFor alloy Genuine state provider.block address slots proof)
    (rooted : state.leaf address = none → slots = [] ∨ proof.storageHash = EMPTY_ROOT_HASH) :
    ∀ storageProof ∈ proof.storageProof,
      alloy.verifyProof proof.storageHash (slotKey alloy storageProof.key.asB256)
        (expectedSlotRlp storageProof.value) storageProof.proof = .ok () := by
  intro storageProof storageProof_mem
  cases is_leaf : state.leaf address with
  | none =>
      rcases (honest.absent is_leaf).storageProof.forall_mem storageProof_mem with
        ⟨requested, zero, empty⟩
      have root := (rooted is_leaf).resolve_left (List.ne_nil_of_mem requested)
      rw [zero, empty, root]
      exact (complete.empty _ _ _).mpr ⟨rfl, rfl⟩
  | some leaf =>
      have shown := honest.present leaf is_leaf
      rcases shown.storageProof.forall_mem storageProof_mem with ⟨-, value, genuine⟩
      rcases holds.storage address leaf is_leaf with ⟨trie, at_root, values⟩
      have verified := complete.genuine _ trie _ _ at_root genuine
      rw [values] at verified
      rw [shown.storageHash, value]
      exact verified

/-- What is recorded from an honest response is what the state holds. -/
theorem L2Rpc.HonestFor.records (holds : tries.Holds provider.block.stateRoot state)
    (codeless : state.code keccakEmpty = [])
    (honest : rpc.HonestFor alloy Genuine state provider.block address slots proof)
    (format : state.HasFormat alloy address)
    (described : proof.Describes state address) {stored : VerifiedStateProvider}
    (recorded : provider.recordStorage alloy address proof.storageHash proof.storageProof =
      (stored, .ok ())) {code : Option Bytecode}
    (fetched : VerifiedStateProvider.fetchCode alloy rpc provider.block address proof = .ok code) :
    (stored.recordAccount address proof code).Records state address slots := by
  rw [honest.fetchCode_eq holds format, Except.ok.injEq] at fetched
  have unfetched : proof.isEmpty → code = none :=
    fun empty => by rw [← fetched, if_pos (.inl empty)]
  have has_code : ¬proof.isEmpty → proof.codeHash ≠ keccakEmpty →
      code = some ⟨state.code proof.codeHash⟩ :=
    fun nonempty set => by rw [← fetched, if_neg (not_or.mpr ⟨nonempty, set⟩)]
  have true_code : ¬proof.isEmpty →
      code.getD Bytecode.default = ⟨state.code proof.codeHash⟩ := by
    intro nonempty
    by_cases unset : proof.codeHash = keccakEmpty
    · rw [← fetched, if_pos (.inr unset), unset, codeless]
      rfl
    · rw [has_code nonempty unset, Option.getD_some]
  constructor
  · have info := described.info_eq unfetched true_code
    simp only [VerifiedStateProvider.databaseRef, VerifiedStateProvider.recordAccount, info,
      Std.ExtTreeMap.getElem?_insert_self]
  · intro slot requested
    have storage := storage_recordStorage recorded (fun _ mem => honest.value_eq mem) slot
    rw [if_pos (honest.exists_storageProof requested)] at storage
    simp only [VerifiedStateProvider.databaseRef, VerifiedStateProvider.recordAccount, storage,
      Option.getD_some]
  · intro leaf is_leaf set
    rw [EIP1186AccountProofResponse.Describes, is_leaf] at described
    split at described
    · cases described
    · rename_i nonempty
      cases described
      simp only [VerifiedStateProvider.databaseRef, VerifiedStateProvider.recordAccount,
        has_code nonempty set, Std.ExtTreeMap.getElem?_insert_self, Option.getD_some]

/-- An honest answer is accepted step by step, where its form does not stand in the way. -/
theorem L2Rpc.HonestFor.fetchAccount_eq (holds : tries.Holds provider.block.stateRoot state)
    (complete : tries.Complete Genuine)
    (honest : rpc.HonestFor alloy Genuine state provider.block address slots proof)
    (nonempty : ∀ leaf, state.leaf address = some leaf → ¬proof.isEmpty)
    (format : state.HasFormat alloy address)
    (rooted : state.leaf address = none → slots = [] ∨ proof.storageHash = EMPTY_ROOT_HASH) :
    ∃ stored code,
      provider.recordStorage alloy address proof.storageHash proof.storageProof =
        (stored, .ok ()) ∧
      VerifiedStateProvider.fetchCode alloy rpc provider.block address proof = .ok code ∧
      provider.fetchAccount alloy (.ok rpc) address slots =
        (stored.recordAccount address proof code, .ok ()) := by
  have proven := honest.proveAccount_eq holds complete (honest.describes nonempty)
  rcases recordStorage_eq_ok_iff.mpr (honest.storage_accepted holds complete rooted) with
    ⟨stored, recorded⟩
  have fetched := honest.fetchCode_eq holds format
  refine ⟨stored, _, recorded, fetched,
    fetchAccount_eq_ok_iff.mpr ⟨rpc, proof, stored, _, proven, recorded, ?_, rfl⟩⟩
  rw [(recordStorage_ok recorded).2.2.1]
  exact fetched

/-- A leaf is accepted only if it is not taken for a missing one and its code can be read. -/
theorem L2Rpc.HonestFor.present_of_ok (holds : tries.Holds provider.block.stateRoot state)
    (honest : rpc.HonestFor alloy Genuine state provider.block address slots proof)
    {leaf : TrieAccount} (is_leaf : state.leaf address = some leaf) {next : VerifiedStateProvider}
    (ok : provider.fetchAccount alloy (.ok rpc) address slots = (next, .ok ())) :
    ¬proof.isEmpty ∧
      (leaf.codeHash = keccakEmpty ∨ alloy.isBytecode (state.code leaf.codeHash)) := by
  rcases fetchAccount_eq_ok_iff.mp ok with ⟨_, answer, stored, code, proven, recorded, fetched, -⟩
  rcases VerifiedStateProvider.proveAccount_ok proven with ⟨⟨⟩, response, verified⟩
  cases honest.answered.symm.trans response
  have nonempty : ¬proof.isEmpty := by
    intro empty
    have described := holds.describes verified
    rw [EIP1186AccountProofResponse.Describes, if_pos empty, is_leaf] at described
    cases described
  refine ⟨nonempty, ?_⟩
  rw [(recordStorage_ok recorded).2.2.1] at fetched
  rw [← (honest.present leaf is_leaf).codeHash]
  rcases VerifiedStateProvider.fetchCode_ok fetched with
    ⟨-, codeless⟩ | ⟨bytes, answered, -, -, -, -, format⟩
  · exact Or.inl (codeless.resolve_left nonempty)
  · rw [honest.code leaf is_leaf] at answered
    cases answered
    rw [(honest.present leaf is_leaf).codeHash]
    exact Or.inr format

/-- The slots of a missing account are accepted only with the root of the empty trie. -/
theorem L2Rpc.HonestFor.absent_of_ok (complete : tries.Complete Genuine)
    (honest : rpc.HonestFor alloy Genuine state provider.block address slots proof)
    (missing : state.leaf address = none) {next : VerifiedStateProvider}
    (ok : provider.fetchAccount alloy (.ok rpc) address slots = (next, .ok ())) :
    slots = [] ∨ proof.storageHash = EMPTY_ROOT_HASH := by
  rcases fetchAccount_eq_ok_iff.mp ok with ⟨_, answer, stored, code, proven, recorded, -, -⟩
  rcases VerifiedStateProvider.proveAccount_ok proven with ⟨⟨⟩, response, -⟩
  cases honest.answered.symm.trans response
  have accepted := recordStorage_eq_ok_iff.mp ⟨stored, recorded⟩
  have shown := (honest.absent missing).storageProof
  cases requested : slots with
  | nil => exact Or.inl rfl
  | cons slot rest =>
      have slot_mem : slot ∈ slots := requested ▸ List.mem_cons_self
      rcases honest.exists_storageProof slot_mem with ⟨storageProof, storageProof_mem, -⟩
      have checked := accepted storageProof storageProof_mem
      rw [(shown.forall_mem storageProof_mem).2.2, complete.empty] at checked
      exact Or.inr checked.1

/-- A fetch accepts an honest answer, and records the truth, unless it takes the account's leaf for
a missing one, panics on the account's code, or checks the slots of a missing account against a
zero hash. -/
theorem fetchAccount_accepts_honest_iff (holds : tries.Holds provider.block.stateRoot state)
    (complete : tries.Complete Genuine) (codeless : state.code keccakEmpty = [])
    (honest : rpc.HonestFor alloy Genuine state provider.block address slots proof) :
    (∃ next, provider.fetchAccount alloy (.ok rpc) address slots = (next, .ok ()) ∧
        next.Records state address slots) ↔
      match state.leaf address with
      | some leaf => ¬proof.isEmpty ∧
          (leaf.codeHash = keccakEmpty ∨ alloy.isBytecode (state.code leaf.codeHash))
      | none => slots = [] ∨ proof.storageHash = EMPTY_ROOT_HASH := by
  constructor
  · rintro ⟨next, ok, -⟩
    cases is_leaf : state.leaf address with
    | some leaf => exact honest.present_of_ok holds is_leaf ok
    | none => exact honest.absent_of_ok complete is_leaf ok
  · intro condition
    have nonempty : ∀ leaf, state.leaf address = some leaf → ¬proof.isEmpty := by
      intro leaf is_leaf
      rw [is_leaf] at condition
      exact condition.1
    have format : state.HasFormat alloy address := by
      intro leaf is_leaf
      rw [is_leaf] at condition
      exact condition.2
    have rooted : state.leaf address = none →
        slots = [] ∨ proof.storageHash = EMPTY_ROOT_HASH := by
      intro is_leaf
      rwa [is_leaf] at condition
    rcases honest.fetchAccount_eq holds complete nonempty format rooted with
      ⟨stored, code, recorded, fetched, ok⟩
    exact ⟨_, ok,
      honest.records holds codeless format (honest.describes nonempty) recorded fetched⟩

end Honest

namespace OneAccount

/-- The proofs in the state trie and in the empty one. -/
def Genuine (root : B256) (_key : Nibbles) (proof : List Bytes) : Prop :=
  (root = stateRoot ∧ proof = [node]) ∨ (root = EMPTY_ROOT_HASH ∧ proof = [])

theorem complete : tries.Complete Genuine where
  genuine := by
    intro root trie path proof at_root genuine
    have at_stateRoot : tries.trieAt stateRoot = some stateTrie := by
      simp only [tries, if_true]
    change verifyProof root path (trie path) proof = .ok ()
    rcases genuine with ⟨rfl, rfl⟩ | ⟨rfl, rfl⟩
    · cases at_stateRoot.symm.trans at_root
      exact if_pos (Or.inl ⟨rfl, rfl, rfl⟩)
    · cases tries.empty.symm.trans at_root
      exact if_pos (Or.inr ⟨rfl, rfl, rfl⟩)
  empty := by
    intro root path expected
    change verifyProof root path expected [] = .ok () ↔ _
    simp [verifyProof]

/-- A provider for the confirmed block. -/
def provider : VerifiedStateProvider :=
  VerifiedStateProvider.new { number := 1, hash := blockHash, stateRoot }

/-- The response for the missing account, with hashes of zero. -/
def zeroHashes : EIP1186AccountProofResponse where
  balance := 0
  codeHash := 0
  nonce := 0
  storageHash := 0
  accountProof := [node]
  storageProof := [{ key := .hash 1, value := 0, proof := [] }]

/-- The server which reports the missing account in this way. -/
def zeroHashRpc : L2Rpc := { l2 with getProof := fun _ _ _ => .ok zeroHashes }

end OneAccount

open OneAccount in
/-- An honest server reports a missing account with a storage hash of zero, and the fetch of one
of its slots fails. -/
theorem fetchAccount_rejects_zero_hash :
    tries.Complete Genuine ∧
      zeroHashRpc.HonestFor alloy Genuine state provider.block 0x22 [1] zeroHashes ∧
      (provider.fetchAccount alloy (.ok zeroHashRpc) 0x22 [1]).2 ≠ .ok () := by
  refine ⟨complete, ?_, by decide +kernel⟩
  have missing : state.leaf 0x22 = none := rfl
  exact
    { answered := rfl
      accountProof := Or.inl ⟨rfl, rfl⟩
      present := by
        intro leaf is_leaf
        rw [missing] at is_leaf
        cases is_leaf
      absent := fun _ => ⟨rfl, rfl, .inl rfl, .inl rfl, .cons ⟨rfl, rfl, rfl⟩ .nil⟩
      code := by
        intro leaf is_leaf
        rw [missing] at is_leaf
        cases is_leaf }

open OneAccount in
/-- The account at `0x11` is accepted with its slot. -/
theorem fetchAccount_accepts_account :
    ∃ next, provider.fetchAccount alloy (.ok l2) 0x11 [1] = (next, .ok ()) ∧
      next.Records state 0x11 [1] := by
  have honest : l2.HonestFor alloy Genuine state provider.block 0x11 [1]
      { balance := 100
        nonce := 0
        codeHash := keccakEmpty
        storageHash := EMPTY_ROOT_HASH
        accountProof := [node]
        storageProof := [{ key := .hash 1, value := 0, proof := [] }] } :=
    { answered := rfl
      accountProof := Or.inl ⟨rfl, rfl⟩
      present := by
        intro found is_leaf
        rw [(leaf_eq is_leaf).2]
        exact ⟨rfl, rfl, rfl, rfl, .cons ⟨rfl, rfl, .inr ⟨rfl, rfl⟩⟩ .nil⟩
      absent := fun missing => nomatch missing
      code := fun _ _ => rfl }
  exact (fetchAccount_accepts_honest_iff holds complete rfl honest).mpr ⟨by decide, .inl rfl⟩

end Zkhood
