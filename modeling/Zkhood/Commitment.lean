import Zkhood.State

/-!
# The state commitment

`stateCommitment` hashes the accounts REVM reports, sorted by address, each
followed by its slots sorted by key. It is the project's own commitment to a
batch's changes, not a Merkle-Patricia root.

The hashed bytes are one record per account: 92 bytes for the account itself,
then 64 bytes for each of its slots. `commitmentBytes_eq` cuts them into these
records.
-/

namespace Zkhood

/-- The bytes which `state_commitment` hashes. -/
def commitmentBytes (state : EvmState) : Bytes :=
  let sorted : BTreeMap Address Account := state.collect id
  sorted.toList.foldl (fun buf (address, account) =>
    let buf := buf ++ address.toBeBytes 20
    let buf := buf ++ account.info.balance.toBeBytes 32
    let buf := buf ++ account.info.nonce.toBeBytes 8
    let buf := buf ++ account.info.codeHash.toBeBytes 32
    let storageSorted : BTreeMap U256 U256 := account.storage.collect EvmStorageSlot.presentValue
    storageSorted.toList.foldl (fun buf (key, value) =>
      let buf := buf ++ key.toBeBytes 32
      buf ++ value.toBeBytes 32) buf) []

/-- Deterministically hashes the accounts REVM reports as changed. -/
def stateCommitment (keccak256 : Bytes → Hash) (state : EvmState) : Hash :=
  keccak256 (commitmentBytes state)

/-- The slots and their present values, in the order of the slots. -/
def Account.sortedSlots (account : Account) : List (U256 × U256) :=
  (account.storage.collect EvmStorageSlot.presentValue).toList

/-- The accounts in the order of their addresses. -/
def sortedAccounts (state : EvmState) : List (Address × Account) :=
  (state.collect id).toList

/-- The 64 bytes of a slot. -/
def slotRecord (slot : U256 × U256) : Bytes :=
  slot.1.toBeBytes 32 ++ slot.2.toBeBytes 32

/-- The 92 bytes of an account without its slots. -/
def headerRecord (address : Address) (info : AccountInfo) : Bytes :=
  address.toBeBytes 20 ++ (info.balance.toBeBytes 32 ++
    (info.nonce.toBeBytes 8 ++ info.codeHash.toBeBytes 32))

/-- The bytes of an account with its slots. -/
def accountRecord (entry : Address × Account) : Bytes :=
  headerRecord entry.1 entry.2.info ++ entry.2.sortedSlots.flatMap slotRecord

@[simp]
theorem length_slotRecord (slot : U256 × U256) : (slotRecord slot).length = 64 := by
  simp [slotRecord]

@[simp]
theorem length_headerRecord (address : Address) (info : AccountInfo) :
    (headerRecord address info).length = 92 := by
  simp [headerRecord]

/-- The hashed bytes are the records of the accounts, in address order. -/
theorem commitmentBytes_eq (state : EvmState) :
    commitmentBytes state = (sortedAccounts state).flatMap accountRecord := by
  rw [commitmentBytes, List.flatMap_eq_foldl]
  congr 1
  funext buf entry
  have slots := @List.foldl_append_eq_append _ _ entry.2.sortedSlots slotRecord
    (buf ++ headerRecord entry.1 entry.2.info)
  rw [← List.flatMap_def] at slots
  simp only [accountRecord, ← List.append_assoc, ← slots]
  simp only [Account.sortedSlots, slotRecord, headerRecord, List.append_assoc]

theorem mem_sortedSlots (account : Account) {slot value : U256} :
    (slot, value) ∈ account.sortedSlots ↔ account.present? slot = some value := by
  rw [Account.sortedSlots, IterMap.mem_toList_collect, Account.present?, Option.map_eq_some_iff]

theorem mem_sortedAccounts (state : EvmState) {address : Address} {account : Account} :
    (address, account) ∈ sortedAccounts state ↔ state.get? address = some account := by
  rw [sortedAccounts, IterMap.mem_toList_collect]
  simp

end Zkhood
