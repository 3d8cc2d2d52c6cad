import Zkhood.Bridge.Anchor
import Zkhood.Data.StaticAbi

/-!
# The rollup contract over the wire

The bridge and the rollup contract exchange bytes: the calls to its functions
and the logs of its event, in the ABI encoding which the field order of the
Solidity types determines. `RollupCall.format` and `Sol.AssertionCreated.decodeLog`
accept exactly these encodings.

Over a node which executes the contract on such bytes, and an L1 server with the
logs which the contract has emitted, the bridge finds the confirmed anchor.
-/

namespace Zkhood

open StaticAbi

/-- The bytes of an ASCII text, given in parts. -/
def ascii (parts : List String) : Bytes :=
  parts.flatMap fun part => part.toList.map fun char => UInt8.ofNat char.toNat

namespace Sol

/-- `bytes32`, one whole word. -/
def bytes32 : Codec B256 := .uint 256 (by decide)

/-- `uint256`, one whole word. -/
def uint256 : Codec U256 := .uint 256 (by decide)

/-- `uint64`, padded to a word. -/
def uint64 : Codec U64 := .uint 64 (by decide)

/-- `address`, padded to a word. -/
def address : Codec Address := .uint 160 (by decide)

end Sol

section Codecs

open Sol

/-- The number of a status in the contract's enumeration. -/
def MachineStatus.toWord : MachineStatus → BitVec 8
  | running => 0
  | finished => 1
  | errored => 2

/-- The status with a number, if one has it. -/
def MachineStatus.ofWord (word : BitVec 8) : Option MachineStatus :=
  if word = 0 then some running
  else if word = 1 then some finished
  else if word = 2 then some errored
  else none

theorem MachineStatus.ofWord_eq_some_iff (word : BitVec 8) (status : MachineStatus) :
    ofWord word = some status ↔ word = status.toWord := by
  cases status <;> simp only [ofWord, toWord] <;> split_ifs <;> simp_all

/-- An enumeration is encoded as a `uint8` in its range. -/
def MachineStatus.codec : Codec MachineStatus :=
  (Codec.uint 8 (by decide)).embed toWord ofWord ofWord_eq_some_iff

/-- The two static arrays of a global state. -/
def GlobalState.codec : Codec GlobalState :=
  ((bytes32.pair bytes32).pair (uint64.pair uint64)).ofEquiv
    { toFun state := (state.bytes32Vals, state.u64Vals)
      invFun fields := ⟨fields.1, fields.2⟩ }

/-- The tuple of an assertion state. -/
def AssertionState.codec : Codec AssertionState :=
  (GlobalState.codec.pair (MachineStatus.codec.pair bytes32)).ofEquiv
    { toFun state := (state.globalState, state.machineStatus, state.endHistoryRoot)
      invFun fields := ⟨fields.1, fields.2.1, fields.2.2⟩ }

end Codecs

section Calls

open Sol

/-- The first four bytes of the hash of a function's signature. -/
def selector (signature : List String) : Bytes :=
  ((Keccak.hash (ascii signature)).toBeBytes 32).take 4

/-- The selector of the call without arguments. -/
def latestConfirmedSelector : Bytes := selector ["latestConfirmed()"]

/-- The selector of the call which hashes an assertion. -/
def computeAssertionHashSelector : Bytes :=
  selector ["computeAssertionHash(bytes32,", "((bytes32[2],uint64[2]),uint8,bytes32),bytes32)"]

theorem length_selector (signature : List String) : (selector signature).length = 4 := by
  rw [selector, List.length_take, BitVec.length_toBeBytes]
  rfl

theorem selectors_ne : latestConfirmedSelector ≠ computeAssertionHashSelector := by
  decide +kernel

/-- The arguments of a call, on the side of its function. -/
def RollupCall.arguments : RollupCall → Unit ⊕ B256 × AssertionState × B256
  | latestConfirmed => .inl ()
  | computeAssertionHash prevAssertionHash state inboxAcc =>
      .inr (prevAssertionHash, state, inboxAcc)

/-- The call with the given arguments. -/
def RollupCall.ofArguments : Unit ⊕ B256 × AssertionState × B256 → RollupCall
  | .inl () => latestConfirmed
  | .inr (prevAssertionHash, state, inboxAcc) =>
      computeAssertionHash prevAssertionHash state inboxAcc

/-- The call data of the two functions: a selector, and the arguments in order. -/
def RollupCall.format : Format RollupCall :=
  ((Format.empty.tagged latestConfirmedSelector).either
    ((bytes32.pair (AssertionState.codec.pair bytes32)).toFormat.tagged
      computeAssertionHashSelector) (by
        intro first second same
        exact selectors_ne (List.append_inj same (by
          rw [latestConfirmedSelector, computeAssertionHashSelector, length_selector,
            length_selector])).1)).embed
    arguments (some ∘ ofArguments) (by
      rintro (⟨⟩ | ⟨prevAssertionHash, state, inboxAcc⟩) (_ | _) <;>
        simp [ofArguments, arguments])

/-- The call data which the bridge sends. -/
def RollupCall.abiEncode (call : RollupCall) : Bytes := format.encode call

end Calls

namespace Sol

/-- The types of the contract's event in full, of which the bridge reads a part. -/
structure ConfigData where
  wasmModuleRoot : B256
  requiredStake : U256
  challengeManager : Address
  confirmPeriodBlocks : U64
  nextInboxPosition : U64

/-- What an assertion starts from. -/
structure BeforeStateData where
  prevPrevAssertionHash : B256
  sequencerBatchAcc : B256
  configData : ConfigData

/-- The inputs of an assertion, with the states before and after it. -/
structure AssertionInputs where
  beforeStateData : BeforeStateData
  beforeState : AssertionState
  afterState : AssertionState

/-- The event with all its fields, the first two of them indexed. -/
structure AssertionCreated where
  assertionHash : B256
  parentAssertionHash : B256
  assertion : AssertionInputs
  afterInboxBatchAcc : B256
  inboxMaxCount : U256
  wasmModuleRoot : B256
  baseStake : U256
  challengeManager : Address
  confirmPeriodBlocks : U64

/-- The tuple of the configuration. -/
def ConfigData.codec : Codec ConfigData :=
  (bytes32.pair (uint256.pair (address.pair (uint64.pair uint64)))).ofEquiv
    { toFun config := (config.wasmModuleRoot, config.requiredStake, config.challengeManager,
        config.confirmPeriodBlocks, config.nextInboxPosition)
      invFun fields := ⟨fields.1, fields.2.1, fields.2.2.1, fields.2.2.2.1, fields.2.2.2.2⟩ }

/-- The tuple of the data before an assertion. -/
def BeforeStateData.codec : Codec BeforeStateData :=
  (bytes32.pair (bytes32.pair ConfigData.codec)).ofEquiv
    { toFun before := (before.prevPrevAssertionHash, before.sequencerBatchAcc, before.configData)
      invFun fields := ⟨fields.1, fields.2.1, fields.2.2⟩ }

/-- The tuple of an assertion's inputs. -/
def AssertionInputs.codec : Codec AssertionInputs :=
  (BeforeStateData.codec.pair (AssertionState.codec.pair AssertionState.codec)).ofEquiv
    { toFun inputs := (inputs.beforeStateData, inputs.beforeState, inputs.afterState)
      invFun fields := ⟨fields.1, fields.2.1, fields.2.2⟩ }

namespace AssertionCreated

/-- The part of the event which the bridge reads. -/
def read (event : AssertionCreated) : Zkhood.AssertionCreated where
  parentAssertionHash := event.parentAssertionHash
  assertion := ⟨event.assertion.afterState⟩
  afterInboxBatchAcc := event.afterInboxBatchAcc

/-- The topic of the event, the hash of its signature. -/
@[irreducible]
def SIGNATURE_HASH : B256 :=
  Keccak.hash (ascii [
    "AssertionCreated(bytes32,bytes32,",
    "((bytes32,bytes32,", "(bytes32,uint256,address,uint64,uint64)),",
    "((bytes32[2],uint64[2]),uint8,bytes32),", "((bytes32[2],uint64[2]),uint8,bytes32)),",
    "bytes32,uint256,", "bytes32,uint256,address,uint64)"])

/-- The fields which are not indexed. -/
abbrev Data := AssertionInputs × B256 × U256 × B256 × U256 × Address × U64

/-- The fields of an event which are not indexed. -/
def data (event : AssertionCreated) : Data :=
  (event.assertion, event.afterInboxBatchAcc, event.inboxMaxCount, event.wasmModuleRoot,
    event.baseStake, event.challengeManager, event.confirmPeriodBlocks)

/-- An event from its topics and its other fields. -/
def ofData (assertionHash parentAssertionHash : B256) : Data → AssertionCreated
  | (assertion, afterInboxBatchAcc, inboxMaxCount, wasmModuleRoot, baseStake, challengeManager,
      confirmPeriodBlocks) =>
      { assertionHash, parentAssertionHash, assertion, afterInboxBatchAcc, inboxMaxCount,
        wasmModuleRoot, baseStake, challengeManager, confirmPeriodBlocks }

/-- The encoding of the fields which are not indexed. -/
def codec : Codec Data :=
  AssertionInputs.codec.pair (bytes32.pair (uint256.pair (bytes32.pair (uint256.pair
    (address.pair uint64)))))

/-- The log of an event: its signature and indexed fields as topics, and the other fields. -/
def encodeLog (event : AssertionCreated) : Log where
  topics := [SIGNATURE_HASH, event.assertionHash, event.parentAssertionHash]
  data := codec.encode event.data

/-- The event which a log encodes, if its signature is the event's. -/
def decodeLog (log : Log) : Option AssertionCreated :=
  match log.topics with
  | [signature, assertionHash, parentAssertionHash] =>
      if signature = SIGNATURE_HASH then
        (codec.decode log.data).map (ofData assertionHash parentAssertionHash)
      else none
  | _ => none

/-- The decoder accepts exactly the logs of events. -/
theorem decodeLog_eq_some_iff (log : Log) (event : AssertionCreated) :
    decodeLog log = some event ↔ log = event.encodeLog := by
  rcases log with ⟨topics, bytes⟩
  constructor
  · intro decoded
    simp only [decodeLog] at decoded
    split at decoded
    · rename_i signature assertionHash parentAssertionHash
      rw [Option.ite_none_right_eq_some, Option.map_eq_some_iff] at decoded
      rcases decoded with ⟨rfl, fields, decoded, rfl⟩
      rw [encodeLog, (codec.decode_eq_some_iff bytes fields).mp decoded]
      rfl
    · cases decoded
  · rintro ⟨⟩
    simp only [decodeLog, if_true, codec.decode_encode, Option.map_some]
    rfl

@[simp]
theorem decodeLog_encodeLog (event : AssertionCreated) : decodeLog event.encodeLog = some event :=
  (decodeLog_eq_some_iff _ event).mpr rfl

theorem encodeLog_injective : Function.Injective encodeLog := by
  intro left right same
  have decoded := congrArg decodeLog same
  rw [decodeLog_encodeLog, decodeLog_encodeLog] at decoded
  exact Option.some.inj decoded

end AssertionCreated

end Sol

section Wire

/-- The answers of a node to `eth_call`, on bytes. -/
abbrev EthCall := Address → Bytes → Except String Bytes

/-- A sidecar, to which the bridge sends encoded calls. -/
def HeliosRpc.ofEthCall (ethCall : EthCall) : HeliosRpc where
  call rollupAddress call := ethCall rollupAddress call.abiEncode

/-- The rollup contract at an L1 block, with the events which it has emitted so far. -/
structure RollupContract where
  computeAssertionHash : B256 → AssertionState → B256 → B256
  latestConfirmed : B256
  events : List (U64 × Sol.AssertionCreated)
  /-- The contract emits an event with the hash which it computes for the assertion. -/
  created : ∀ entry ∈ events, entry.2.assertionHash =
    computeAssertionHash entry.2.parentAssertionHash entry.2.assertion.afterState
      entry.2.afterInboxBatchAcc

namespace RollupContract

variable (contract : RollupContract)

/-- What the contract returns for a call. -/
def answer : RollupCall → B256
  | .latestConfirmed => contract.latestConfirmed
  | .computeAssertionHash prevAssertionHash state inboxAcc =>
      contract.computeAssertionHash prevAssertionHash state inboxAcc

/-- The contract's entry point, which reverts if the call data is none of its calls. -/
def dispatch (data : Bytes) : Except String Bytes :=
  match RollupCall.format.decode data with
  | some call => .ok (Sol.bytes32.encode (contract.answer call))
  | none => .error "execution reverted"

/-- The logs of the events with a topic. -/
def logsFor (assertionHash : B256) : List (U64 × Log) :=
  (contract.events.filter fun entry => entry.2.assertionHash = assertionHash).map fun entry =>
    (entry.1, entry.2.encodeLog)

/-- The node executes the contract, and the L1 server has the logs of the chain. -/
structure ServedBy (rollupAddress : Address) (ethCall : EthCall) (l1 : L1Rpc) (latest : U64) :
    Prop where
  executes : ∀ call : RollupCall, ethCall rollupAddress call.abiEncode =
    .ok (Sol.bytes32.encode (contract.answer call))
  tip : l1.getBlockNumber = .ok latest
  answers : ∀ assertionHash,
    l1.Answers rollupAddress assertionHash (contract.logsFor assertionHash)

end RollupContract

/-- The library reads what is encoded by the ABI. -/
structure Alloy.DecodesAbi (alloy : Alloy) : Prop where
  returns : ∀ hash, alloy.decodeReturns (Sol.bytes32.encode hash) = .ok hash
  log : ∀ event : Sol.AssertionCreated, alloy.decodeLog event.encodeLog = .ok event.read

/-- The confirmed block is that of the contract. -/
structure ConfirmedBlock.OnContract {alloy : Alloy} (world : ConfirmedBlock alloy)
    (contract : RollupContract) : Prop where
  assertionHash : contract.computeAssertionHash = world.assertionHash
  latestConfirmed : contract.latestConfirmed = world.confirmedAssertionHash

variable {alloy : Alloy} {world : ConfirmedBlock alloy} {contract : RollupContract}
  {rollupAddress : Address} {ethCall : EthCall} {l1 : L1Rpc} {latest : U64}

/-- The contract understands the call data which the bridge sends. -/
theorem RollupContract.dispatch_abiEncode (contract : RollupContract) (call : RollupCall) :
    contract.dispatch call.abiEncode = .ok (Sol.bytes32.encode (contract.answer call)) := by
  rw [dispatch, RollupCall.abiEncode, StaticAbi.Format.decode_encode]

/-- A node which executes the contract is a Helios server as the anchor needs it. -/
theorem RollupContract.ServedBy.available
    (served : contract.ServedBy rollupAddress ethCall l1 latest) (decodes : alloy.DecodesAbi)
    (on_contract : world.OnContract contract) :
    world.Available rollupAddress (.ofEthCall ethCall) where
  latestConfirmed :=
    ⟨_, served.executes .latestConfirmed, by
      rw [decodes.returns, answer, on_contract.latestConfirmed]⟩
  computeAssertionHash prevAssertionHash state inboxAcc :=
    ⟨_, served.executes (.computeAssertionHash prevAssertionHash state inboxAcc), by
      rw [decodes.returns, answer, on_contract.assertionHash]⟩

/-- The logs of the contract's events are those which the anchor needs. -/
theorem RollupContract.ServedBy.hasEvents
    (served : contract.ServedBy rollupAddress ethCall l1 latest) (decodes : alloy.DecodesAbi)
    (on_contract : world.OnContract contract) (collisionFree : world.CollisionFree) :
    world.HasEvents l1 rollupAddress latest (contract.logsFor world.confirmedAssertionHash) where
  tip := served.tip
  answers := served.answers world.confirmedAssertionHash
  events := by
    intro entry entry_mem
    simp only [logsFor, List.mem_map, List.mem_filter, decide_eq_true_eq] at entry_mem
    rcases entry_mem with ⟨emitted, ⟨emitted_mem, confirmed⟩, rfl⟩
    have hashed := contract.created emitted emitted_mem
    rw [confirmed, on_contract.assertionHash] at hashed
    exact ⟨_, decodes.log emitted.2, collisionFree.assertion _ _ _ hashed.symm⟩

theorem RollupContract.exists_mem_logsFor (contract : RollupContract) (assertionHash : B256)
    (low high : U64) :
    (∃ entry ∈ contract.logsFor assertionHash, low ≤ entry.1 ∧ entry.1 ≤ high) ↔
      ∃ entry ∈ contract.events, entry.2.assertionHash = assertionHash ∧ low ≤ entry.1 ∧
        entry.1 ≤ high := by
  simp only [logsFor, List.mem_map, List.mem_filter, decide_eq_true_eq]
  constructor
  · rintro ⟨entry, ⟨emitted, ⟨emitted_mem, is_hash⟩, rfl⟩, in_range⟩
    exact ⟨emitted, emitted_mem, is_hash, in_range⟩
  · rintro ⟨emitted, emitted_mem, is_hash, in_range⟩
    exact ⟨_, ⟨emitted, ⟨emitted_mem, is_hash⟩, rfl⟩, in_range⟩

end Wire

/-- No two calls have the same call data, and no two events the same log. Over a node which executes
the contract on call data, and an L1 server with the logs of its events, the bridge finds the
confirmed anchor exactly if the confirmed assertion was created between the deploy block and the
tip, and else reports that it was not. -/
theorem anchor_over_the_wire {alloy : Alloy} (decodes : alloy.DecodesAbi)
    (world : ConfirmedBlock alloy) (collisionFree : world.CollisionFree)
    {contract : RollupContract} (on_contract : world.OnContract contract)
    {network : NetworkConfig} {ethCall : EthCall} {l1 : L1Rpc} {latest : U64}
    (served : contract.ServedBy network.rollupAddress ethCall l1 latest)
    (floor : network.rollupDeployBlock ≤ latest) :
    Function.Injective RollupCall.abiEncode ∧ Function.Injective Sol.AssertionCreated.encodeLog ∧
    verifyLatestL2Anchor alloy (.ok (.ofEthCall ethCall)) (.ok l1) network =
      if ∃ entry ∈ contract.events, entry.2.assertionHash = contract.latestConfirmed ∧
          network.rollupDeployBlock ≤ entry.1 ∧ entry.1 ≤ latest then
        .ok world.anchor
      else .error (noLogFound contract.latestConfirmed network.rollupDeployBlock latest) := by
  refine ⟨RollupCall.format.encode_injective, Sol.AssertionCreated.encodeLog_injective, ?_⟩
  have hasEvents := served.hasEvents decodes on_contract collisionFree
  rw [(served.available decodes on_contract).verifyLatestL2Anchor_of_hasEvents collisionFree
    hasEvents floor, on_contract.latestConfirmed]
  simp only [contract.exists_mem_logsFor]

section Decoders

/-- The library's error for data which is no encoding. -/
def typeChecked {α : Type} : Option α → Except String α
  | some value => .ok value
  | none => .error "type check failed"

/-- The library, with decoders which accept exactly the encodings. -/
def Alloy.withAbi (alloy : Alloy) : Alloy :=
  { alloy with
    decodeReturns := fun data => typeChecked (Sol.bytes32.decode data)
    decodeLog := fun log =>
      (typeChecked (Sol.AssertionCreated.decodeLog log)).map Sol.AssertionCreated.read }

/-- The same block, seen through the exact decoders. -/
def ConfirmedBlock.withAbi {alloy : Alloy} (world : ConfirmedBlock alloy) :
    ConfirmedBlock alloy.withAbi where
  assertionHash := world.assertionHash
  parentAssertionHash := world.parentAssertionHash
  afterState := world.afterState
  inboxAcc := world.inboxAcc
  header := world.header
  tries :=
    { trieAt := world.tries.trieAt
      sound := world.tries.sound
      empty := world.tries.empty
      zero := world.tries.zero }
  state := world.state
  committed := world.committed
  holds :=
    { accounts := world.holds.accounts
      storage := world.holds.storage
      code := world.holds.code }

variable (alloy : Alloy)

theorem Alloy.withAbi_decodeReturns (data : Bytes) :
    alloy.withAbi.decodeReturns data = typeChecked (Sol.bytes32.decode data) := rfl

theorem Alloy.withAbi_decodeLog (log : Log) : alloy.withAbi.decodeLog log =
    (typeChecked (Sol.AssertionCreated.decodeLog log)).map Sol.AssertionCreated.read := rfl

/-- The exact decoders decode what the contract encodes. -/
theorem Alloy.withAbi_decodesAbi : alloy.withAbi.DecodesAbi where
  returns hash := by
    rw [withAbi_decodeReturns, StaticAbi.Format.decode_encode]
    rfl
  log event := by
    rw [withAbi_decodeLog, Sol.AssertionCreated.decodeLog_encodeLog]
    rfl

theorem ConfirmedBlock.CollisionFree.withAbi {alloy : Alloy} {world : ConfirmedBlock alloy}
    (collisionFree : world.CollisionFree) : world.withAbi.CollisionFree where
  assertion := collisionFree.assertion
  header := collisionFree.header
  code := collisionFree.code

end Decoders

namespace OneAccount

/-- The event whose log the L1 server has. -/
def event : Sol.AssertionCreated where
  assertionHash := confirmedAssertionHash
  parentAssertionHash := 1
  assertion :=
    { beforeStateData :=
        { prevPrevAssertionHash := 0
          sequencerBatchAcc := 0
          configData :=
            { wasmModuleRoot := 0
              requiredStake := 0
              challengeManager := 0
              confirmPeriodBlocks := 45818
              nextInboxPosition := 0 } }
      beforeState :=
        { globalState := { bytes32Vals := (0, 0), u64Vals := (0, 0) }
          machineStatus := .finished
          endHistoryRoot := 0 }
      afterState := afterState }
  afterInboxBatchAcc := 2
  inboxMaxCount := 0
  wasmModuleRoot := 0
  baseStake := 0
  challengeManager := 0
  confirmPeriodBlocks := 45818

example : event.encodeLog.topics = log.topics := by decide +kernel

/-- The contract has created the confirmed assertion, and later another one. -/
def contract : RollupContract where
  computeAssertionHash := assertionHash
  latestConfirmed := confirmedAssertionHash
  events :=
    [(10210000, event), (10250000, { event with assertionHash := 0, afterInboxBatchAcc := 3 })]
  created := by decide +kernel

/-- A server with the logs of a contract. -/
def contractL1 (rollupAddress : Address) (latest : U64) : L1Rpc where
  getBlockNumber := .ok latest
  getLogs filter :=
    (L1Rpc.serving latest rollupAddress filter.topic1 (contract.logsFor filter.topic1)).getLogs
      filter

theorem contract_servedBy (rollupAddress : Address) (latest : U64) :
    contract.ServedBy rollupAddress (fun _ => contract.dispatch)
      (contractL1 rollupAddress latest) latest where
  executes := contract.dispatch_abiEncode
  tip := rfl
  answers assertionHash :=
    L1Rpc.answers_serving latest rollupAddress assertionHash (contract.logsFor assertionHash)

end OneAccount

open OneAccount (alloy world collisionFree contract contractL1 contract_servedBy) in
/-- The confirmed assertion was created before one tip and after another. -/
theorem anchor_over_the_wire_two_tips :
    let bridge latest := verifyLatestL2Anchor alloy.withAbi
      (.ok (.ofEthCall fun _ => contract.dispatch))
      (.ok (contractL1 NetworkConfig.testnet.rollupAddress latest)) .testnet
    bridge 10300000 = .ok world.withAbi.anchor ∧
      bridge 10209999 = .error (noLogFound contract.latestConfirmed 10204516 10209999) := by
  intro bridge
  have found (latest : U64) (floor : NetworkConfig.testnet.rollupDeployBlock ≤ latest) :=
    anchor_over_the_wire alloy.withAbi_decodesAbi world.withAbi collisionFree.withAbi ⟨rfl, rfl⟩
      (contract_servedBy NetworkConfig.testnet.rollupAddress latest) floor
  constructor
  · refine (found 10300000 (by decide)).2.2.trans (if_pos ?_)
    exact ⟨_, List.mem_cons_self, rfl, by decide, by decide⟩
  · refine (found 10209999 (by decide)).2.2.trans (if_neg ?_)
    decide

end Zkhood
