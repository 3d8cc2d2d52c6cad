import Zkhood.Data.Fallible
import Zkhood.State

/-!
# The rollup contract and the RPC servers

The on-chain types of the rollup contract, as far as the bridge reads them, and
the answers which its RPC servers give. A server is the record of its answers to
the requests the bridge makes; an endpoint is what connecting to a URL gives.
-/

namespace Zkhood

/-- The global state of an assertion: the L2 block hash and send root, and the inbox position. -/
structure GlobalState where
  bytes32Vals : B256 × B256
  u64Vals : U64 × U64
deriving DecidableEq

/-- The L2 block hash committed to by this assertion state. -/
def GlobalState.l2BlockHash (self : GlobalState) : B256 := self.bytes32Vals.1

/-- Whether the machine still runs, has finished or has failed. -/
inductive MachineStatus where
  | running
  | finished
  | errored
deriving DecidableEq

/-- The state which an assertion reaches. -/
structure AssertionState where
  globalState : GlobalState
  machineStatus : MachineStatus
  endHistoryRoot : B256
deriving DecidableEq

/-- The part of a decoded event's assertion which the bridge reads. -/
structure AssertionInputs where
  afterState : AssertionState
deriving DecidableEq

/-- The part of a decoded `AssertionCreated` event which the bridge reads. -/
structure AssertionCreated where
  parentAssertionHash : B256
  assertion : AssertionInputs
  afterInboxBatchAcc : B256
deriving DecidableEq

/-- The two calls to the rollup contract, before their ABI encoding. -/
inductive RollupCall where
  | latestConfirmed
  | computeAssertionHash (prevAssertionHash : B256) (state : AssertionState) (inboxAcc : B256)

/-- The rollup contract of a network. -/
structure NetworkConfig where
  rollupAddress : Address
  /-- The floor of the scan for the event of an assertion. -/
  rollupDeployBlock : U64

/-- Robinhood Chain testnet, whose rollup contract is on Sepolia. -/
def NetworkConfig.testnet : NetworkConfig where
  rollupAddress := 0xdc5F8E399DBd8a9F5F87AeC4C23Beb12431b386D
  rollupDeployBlock := 10204516

/-- Robinhood Chain mainnet; its deploy block is not known, so a scan goes down to genesis. -/
def NetworkConfig.mainnet : NetworkConfig where
  rollupAddress := 0x23A19d23e89166adedbDcB432518AB01e4272D94
  rollupDeployBlock := 0

/-- What connecting to an RPC URL gives: a provider, or the error of parsing the URL. -/
abbrev Endpoint (Provider : Type) := Except String Provider

/-- The Helios sidecar's answers. -/
structure HeliosRpc where
  /-- `eth_call` of a contract at the latest block. -/
  call : Address → RollupCall → Except String Bytes

/-- A log as an RPC returns it. -/
structure Log where
  topics : List B256
  data : Bytes

/-- The filter of an `eth_getLogs` request for the event of one assertion. -/
structure Filter where
  address : Address
  topic1 : B256
  fromBlock : U64
  toBlock : U64

/-- The untrusted L1 RPC's answers. -/
structure L1Rpc where
  getBlockNumber : Except String U64
  getLogs : Filter → Except String (List Log)

/-- A block header: the fields which the bridge reads, and the rest of what is hashed. -/
structure Header where
  number : U64
  stateRoot : B256
  rest : Bytes
deriving DecidableEq

/-- A storage key as an RPC returns it, a hash or a number. -/
inductive JsonStorageKey where
  | hash (key : B256)
  | number (key : U256)

/-- The key as a hash. -/
def JsonStorageKey.asB256 : JsonStorageKey → B256
  | hash key => key
  | number key => key

/-- A slot's value with the nodes which prove it. -/
structure EIP1186StorageProof where
  key : JsonStorageKey
  value : U256
  proof : List Bytes

/-- The answer to `eth_getProof`. -/
structure EIP1186AccountProofResponse where
  balance : U256
  codeHash : B256
  nonce : U64
  storageHash : B256
  accountProof : List Bytes
  storageProof : List EIP1186StorageProof

/-- The L2 RPC's answers, for requests at a block given by its hash. -/
structure L2Rpc where
  getBlockByHash : B256 → Except String (Option Header)
  getProof : Address → List B256 → B256 → Except String EIP1186AccountProofResponse
  getCodeAt : Address → B256 → Except String Bytes

/-- A path in a trie. -/
abbrev Nibbles := List UInt8

/-- The two nibbles of each byte, the higher one first. -/
def Nibbles.unpack (bytes : Bytes) : Nibbles :=
  bytes.flatMap fun byte : UInt8 => [byte >>> 4, byte &&& 0x0f]

/-- The functions of the Ethereum libraries and of `revm` which the bridge calls. -/
structure Alloy where
  keccak256 : Bytes → B256
  /-- The bytes are in a format of bytecode: they do not start as an EIP-7702 designator does, or
  they are one. -/
  isBytecode : Bytes → Bool
  /-- Decode the `bytes32` which a contract call returned. -/
  decodeReturns : Bytes → Except String B256
  decodeLog : Log → Except String AssertionCreated
  /-- The hash of a header. -/
  hashSlow : Header → B256
  /-- Check a proof that the trie with a root maps a key to a value, or to nothing. -/
  verifyProof : B256 → Nibbles → Option Bytes → List Bytes → Except String Unit

/-- `Bytecode::new_raw`, which panics on bytes in no format of bytecode. -/
def Bytecode.newRaw (alloy : Alloy) (bytes : Bytes) : Except (Failure String) Bytecode :=
  if alloy.isBytecode bytes then .ok ⟨bytes⟩ else .error .panic

/-- The formats which `revm` knows: what starts with `ef01` has to be a designator of version 0
with an address, and everything else is legacy code. -/
def Bytecode.isWellFormed (bytes : Bytes) : Bool :=
  bytes.take 2 != [0xef, 0x01] || (bytes.length == 23 && bytes[2]? == some 0)

/-- The constructor returns, instead of panicking, exactly on bytes in a format of bytecode. -/
theorem Bytecode.newRaw_eq_ok_iff {alloy : Alloy} {bytes : Bytes} {code : Bytecode} :
    Bytecode.newRaw alloy bytes = .ok code ↔ alloy.isBytecode bytes ∧ code = ⟨bytes⟩ := by
  by_cases format : alloy.isBytecode bytes <;> simp [newRaw, format, eq_comm]

end Zkhood
