import Zkhood.Bridge.Abi
import Zkhood.Data.Rlp

/-!
# The verified state provider

`fetchVerifiedStateRoot` checks a block header against the hash which came from
L1. `VerifiedStateProvider.fetchAccount` checks an account, its slots and its
code against the state root of that block, and records what it has checked. An
error keeps what the call had recorded before it, and so does the panic on code
which is in no format of bytecode.

The provider then answers REVM's queries from what it has recorded, with a
default for everything else.
-/

namespace Zkhood

/-- A block whose state root is bound to the L1-verified hash. -/
structure VerifiedL2Block where
  number : U64
  hash : B256
  stateRoot : B256
deriving DecidableEq

/-- The root of the trie without keys. -/
def EMPTY_ROOT_HASH : B256 :=
  0x56e81f171bcc55a6ff8345e692c0f86e5b48e01b996cadc001622fb5e363b421

/-- The value of a state trie leaf. -/
structure TrieAccount where
  nonce : U64
  balance : U256
  storageRoot : B256
  codeHash : B256
deriving DecidableEq

/-- The fields of an account, each encoded. -/
def TrieAccount.rlpItems (account : TrieAccount) : List Bytes :=
  [Rlp.encodeUint 8 account.nonce, Rlp.encodeUint 32 account.balance,
    Rlp.encodeString (account.storageRoot.toBeBytes 32),
    Rlp.encodeString (account.codeHash.toBeBytes 32)]

/-- `alloy_rlp::encode` of an account. -/
def TrieAccount.rlpEncode (account : TrieAccount) : Bytes :=
  Rlp.encodeList account.rlpItems

namespace EIP1186AccountProofResponse

/-- The response describes an account which may be missing from the trie. -/
def isEmpty (proof : EIP1186AccountProofResponse) : Bool :=
  proof.nonce == 0 && proof.balance == 0 &&
    (proof.codeHash == 0 || proof.codeHash == keccakEmpty) &&
    (proof.storageHash == 0 || proof.storageHash == EMPTY_ROOT_HASH)

/-- The leaf which the account proof has to show, or its absence. -/
def expectedAccountRlp (proof : EIP1186AccountProofResponse) : Option Bytes :=
  if proof.isEmpty then none
  else some (TrieAccount.rlpEncode
    { nonce := proof.nonce
      balance := proof.balance
      storageRoot := proof.storageHash
      codeHash := proof.codeHash })

end EIP1186AccountProofResponse

/-- The leaf which the proof of a slot has to show, or its absence. -/
def expectedSlotRlp (value : U256) : Option Bytes :=
  if value = 0 then none else some (Rlp.encodeUint 32 value)

/-- The path of an account in the state trie. -/
def accountKey (alloy : Alloy) (address : Address) : Nibbles :=
  Nibbles.unpack ((alloy.keccak256 (address.toBeBytes 20)).toBeBytes 32)

/-- The path of a slot in a storage trie. -/
def slotKey (alloy : Alloy) (key : B256) : Nibbles :=
  Nibbles.unpack ((alloy.keccak256 (key.toBeBytes 32)).toBeBytes 32)

/-- Fetches a header by its hash and checks that it has this hash. -/
def fetchVerifiedStateRoot (alloy : Alloy) (l2Rpc : Endpoint L2Rpc) (l2BlockHash : B256) :
    Except String VerifiedL2Block := do
  let provider ← l2Rpc
  let answer ← provider.getBlockByHash l2BlockHash
  let header ← okOrElse
    ("L2 block " ++ lowerHex 32 l2BlockHash ++ " not found on Robinhood RPC") answer
  let recomputed := alloy.hashSlow header
  ensure (recomputed = l2BlockHash)
    ("L2 block hash self-verification failed: header hashes to " ++ lowerHex 32 recomputed ++
      ", expected L1-anchored " ++ lowerHex 32 l2BlockHash)
  return { number := header.number, hash := l2BlockHash, stateRoot := header.stateRoot }

/-- The error of a proof request, which names pruned state as a likely cause. -/
def proofError (block : VerifiedL2Block) (msg : String) : String :=
  if msg.contains "missing trie node" || msg.contains "is not available" then
    "state for L2 block " ++ toString block.number.toNat ++
      " is pruned on this RPC (full nodes keep ~128 recent states). Reading the confirmed " ++
      "(historical) block needs an ARCHIVE endpoint — set ROBINHOOD_RPC_URL to an archive " ++
      "Robinhood RPC. Underlying: " ++ msg
  else msg

/-- A block and what was verified against its state root so far. -/
structure VerifiedStateProvider where
  block : VerifiedL2Block
  accounts : HashMap Address AccountInfo
  storage : HashMap (Address × U256) U256
  code : HashMap B256 Bytecode

namespace VerifiedStateProvider

/-- A provider with nothing recorded. -/
def new (block : VerifiedL2Block) : VerifiedStateProvider := ⟨block, ∅, ∅, ∅⟩

variable (alloy : Alloy)

/-- Requests the proofs of an account and its slots, and checks that of the account. -/
def proveAccount (self : VerifiedStateProvider) (l2Rpc : Endpoint L2Rpc) (address : Address)
    (slots : List U256) : Except String (L2Rpc × EIP1186AccountProofResponse) := do
  let provider ← l2Rpc
  let proof ← (provider.getProof address slots self.block.hash).mapError (proofError self.block)
  (alloy.verifyProof self.block.stateRoot (accountKey alloy address) proof.expectedAccountRlp
    proof.accountProof).mapError
      (("account proof verification failed for " ++ lowerHex 20 address ++ ": ") ++ ·)
  return (provider, proof)

/-- Checks the storage proofs one after another, recording each slot before the next. -/
def recordStorage (self : VerifiedStateProvider) (address : Address) (storageHash : B256) :
    List EIP1186StorageProof → VerifiedStateProvider × Except String Unit
  | [] => (self, .ok ())
  | storageProof :: rest =>
      let slot : U256 := storageProof.key.asB256
      match alloy.verifyProof storageHash (slotKey alloy storageProof.key.asB256)
          (expectedSlotRlp storageProof.value) storageProof.proof with
      | .error e =>
          (self, .error ("storage proof verification failed for " ++ lowerHex 20 address ++
            " slot " ++ toString slot.toNat ++ ": " ++ e))
      | .ok () =>
          recordStorage
            { self with storage := self.storage.insert (address, slot) storageProof.value }
            address storageHash rest

/-- Fetches the account's bytecode, unless it has none, and checks it against the code hash. -/
def fetchCode (provider : L2Rpc) (block : VerifiedL2Block) (address : Address)
    (proof : EIP1186AccountProofResponse) : Except (Failure String) (Option Bytecode) := do
  if proof.isEmpty || proof.codeHash == keccakEmpty then
    return none
  else
    let bytes ← (provider.getCodeAt address block.hash).mapError .report
    let got := alloy.keccak256 bytes
    (ensure (got = proof.codeHash)
      ("bytecode hash mismatch for " ++ lowerHex 20 address ++ ": got " ++ lowerHex 32 got ++
        ", expected " ++ lowerHex 32 proof.codeHash)).mapError .report
    let code ← Bytecode.newRaw alloy bytes
    return some code

/-- Records a proved account and its code. -/
def recordAccount (self : VerifiedStateProvider) (address : Address)
    (proof : EIP1186AccountProofResponse) (code : Option Bytecode) : VerifiedStateProvider :=
  let info := AccountInfo.new proof.balance proof.nonce
    (if proof.isEmpty then keccakEmpty else proof.codeHash) (code.getD Bytecode.default)
  { self with
    accounts := self.accounts.insert address info
    code := match code with
      | some code => self.code.insert proof.codeHash code
      | none => self.code }

/-- Fetches an account and the given slots at the verified block, and records what it has
verified. -/
def fetchAccount (self : VerifiedStateProvider) (l2Rpc : Endpoint L2Rpc) (address : Address)
    (slots : List U256) : VerifiedStateProvider × Except (Failure String) Unit :=
  match self.proveAccount alloy l2Rpc address slots with
  | .error e => (self, .error (.report e))
  | .ok (provider, proof) =>
      match self.recordStorage alloy address proof.storageHash proof.storageProof with
      | (self, .error e) => (self, .error (.report e))
      | (self, .ok ()) =>
          match fetchCode alloy provider self.block address proof with
          | .error e => (self, .error e)
          | .ok code => (self.recordAccount address proof code, .ok ())

/-- What was not recorded reads as missing, empty or zero. -/
def databaseRef (self : VerifiedStateProvider) : DatabaseRef Infallible where
  basicRef address := .ok self.accounts[address]?
  codeByHashRef codeHash := .ok (self.code[codeHash]?.getD Bytecode.default)
  storageRef address index := .ok (self.storage[(address, index)]?.getD 0)
  blockHashRef _ := .ok 0

end VerifiedStateProvider

theorem expectedSlotRlp_injective : Function.Injective expectedSlotRlp := by
  intro left right same
  simp only [expectedSlotRlp] at same
  split at same <;> split at same
  · simp_all
  · cases same
  · cases same
  · exact Rlp.encodeUint_inj (by norm_num) (by omega) (Option.some.inj same)

namespace TrieAccount

theorem length_rlpItems (account : TrieAccount) :
    56 ≤ account.rlpItems.flatten.length ∧ account.rlpItems.flatten.length < 256 := by
  have uint : ∀ {bits : ℕ} (width : ℕ) (word : BitVec bits), width < 56 →
      (Rlp.encodeUint width word).length ≤ width + 1 := by
    intro bits width word short
    have trimmed := Rlp.length_trim_toBeBytes_le width word
    rw [Rlp.encodeUint]
    have encoded := @Rlp.length_encodeString_le (Rlp.trim (word.toBeBytes width)) (by omega)
    omega
  have hash : ∀ word : B256, 32 ≤ (Rlp.encodeString (word.toBeBytes 32)).length ∧
      (Rlp.encodeString (word.toBeBytes 32)).length ≤ 33 := by
    intro word
    have encoded := @Rlp.length_encodeString_le (word.toBeBytes 32) (by simp)
    rwa [BitVec.length_toBeBytes] at encoded
  have nonce := uint 8 account.nonce (by omega)
  have balance := uint 32 account.balance (by omega)
  have storageRoot := hash account.storageRoot
  have codeHash := hash account.codeHash
  simp only [rlpItems, List.flatten_cons, List.flatten_nil, List.length_append, List.length_nil]
  omega

theorem rlpEncode_injective : Function.Injective rlpEncode := by
  rintro ⟨nonce, balance, storageRoot, codeHash⟩ ⟨nonce', balance', storageRoot', codeHash'⟩ same
  have payloads := Rlp.encodeList_inj (length_rlpItems _).1 (length_rlpItems _).2
    (length_rlpItems _).1 (length_rlpItems _).2 same
  simp only [rlpItems, List.flatten_cons, List.flatten_nil] at payloads
  rcases Rlp.encodeUint_append_inj (by norm_num) (by omega) payloads with ⟨nonces, payloads⟩
  rcases Rlp.encodeUint_append_inj (by norm_num) (by omega) payloads with ⟨balances, payloads⟩
  rcases Rlp.encodeString_append_inj (by simp) (by simp) payloads with ⟨roots, payloads⟩
  have hashes := (Rlp.encodeString_append_inj (by simp) (by simp) payloads).1
  rw [nonces, balances, BitVec.toBeBytes_inj (by norm_num) roots,
    BitVec.toBeBytes_inj (by norm_num) hashes]

end TrieAccount

/-- A verified block has a header with the requested hash. -/
theorem fetchVerifiedStateRoot_ok {alloy : Alloy} {l2Rpc : Endpoint L2Rpc} {l2BlockHash : B256}
    {block : VerifiedL2Block}
    (ok : fetchVerifiedStateRoot alloy l2Rpc l2BlockHash = .ok block) :
    ∃ header, alloy.hashSlow header = l2BlockHash ∧
      block = { number := header.number, hash := l2BlockHash, stateRoot := header.stateRoot } := by
  simp only [fetchVerifiedStateRoot, bind_eq_ok_iff, ensure_eq_ok_iff] at ok
  rcases ok with ⟨provider, -, answer, -, header, -, ⟨⟩, matching, result⟩
  cases result
  exact ⟨header, matching, rfl⟩

namespace VerifiedStateProvider

variable {alloy : Alloy}

/-- An account is proved only by a proof which was accepted. -/
theorem proveAccount_ok {self : VerifiedStateProvider} {l2Rpc : Endpoint L2Rpc}
    {address : Address} {slots : List U256} {provider : L2Rpc}
    {proof : EIP1186AccountProofResponse}
    (ok : self.proveAccount alloy l2Rpc address slots = .ok (provider, proof)) :
    l2Rpc = .ok provider ∧ provider.getProof address slots self.block.hash = .ok proof ∧
      alloy.verifyProof self.block.stateRoot (accountKey alloy address) proof.expectedAccountRlp
        proof.accountProof = .ok () := by
  simp only [proveAccount, bind_eq_ok_iff, mapError_eq_ok_iff] at ok
  rcases ok with ⟨connected, connection, answer, response, ⟨⟩, verified, result⟩
  cases result
  exact ⟨connection, response, verified⟩

/-- Code is returned only with the proved hash, and in a format of bytecode. -/
theorem fetchCode_ok {provider : L2Rpc} {block : VerifiedL2Block} {address : Address}
    {proof : EIP1186AccountProofResponse} {code : Option Bytecode}
    (ok : fetchCode alloy provider block address proof = .ok code) :
    (code = none ∧ (proof.isEmpty ∨ proof.codeHash = keccakEmpty)) ∨
      ∃ bytes, provider.getCodeAt address block.hash = .ok bytes ∧
        alloy.keccak256 bytes = proof.codeHash ∧ code = some ⟨bytes⟩ ∧
        ¬proof.isEmpty ∧ proof.codeHash ≠ keccakEmpty ∧ alloy.isBytecode bytes := by
  rw [fetchCode] at ok
  by_cases codeless : proof.isEmpty ∨ proof.codeHash = keccakEmpty
  · have skipped : (proof.isEmpty || proof.codeHash == keccakEmpty) = true := by
      simpa using codeless
    simp only [skipped, if_true] at ok
    cases ok
    exact Or.inl ⟨rfl, codeless⟩
  · have fetched : (proof.isEmpty || proof.codeHash == keccakEmpty) = false := by
      simpa using codeless
    simp only [fetched, Bool.false_eq_true, if_false, bind_eq_ok_iff, mapError_eq_ok_iff,
      ensure_eq_ok_iff, Bytecode.newRaw_eq_ok_iff] at ok
    rcases ok with ⟨bytes, answer, ⟨⟩, matching, read, ⟨format, rfl⟩, result⟩
    cases result
    rcases not_or.mp codeless with ⟨nonempty, set⟩
    exact Or.inr ⟨bytes, answer, matching, rfl, nonempty, set, format⟩

end VerifiedStateProvider

end Zkhood
