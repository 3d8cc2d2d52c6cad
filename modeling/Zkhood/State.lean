import Zkhood.Data.BigEndian
import Zkhood.Data.IterMap

/-!
# EVM state as the executor sees it

The types of `revm` which the executor, the overlay and the state providers
share: accounts, the state changes which `finalize` reports, and the read
interface `DatabaseRef`. Addresses, hashes and words are bit vectors of their
Rust widths; `as_slice` and `to_be_bytes` are their big-endian bytes.

A `DatabaseRef` is the record of its answers. REVM is generic in its database
and can learn nothing else about it, so two databases with the same answers are
the same database.
-/

namespace Zkhood

/-- A byte string. -/
abbrev Bytes := List UInt8

/-- Rust's `u32`. -/
abbrev U32 := BitVec 32

/-- Rust's `u64`. -/
abbrev U64 := BitVec 64

/-- A word of the EVM. -/
abbrev U256 := BitVec 256

/-- A hash or another value of 32 bytes. -/
abbrev B256 := BitVec 256

/-- An account address of 20 bytes. -/
abbrev Address := BitVec 160

/-- `[u8; 32]`, the digests of `commitment.rs`. -/
abbrev Hash := BitVec 256

/-- The error type of providers which always answer. -/
abbrev Infallible := Empty

instance : Ord (Address × U256) := lexOrd

instance transOrd_address : Std.TransOrd Address := inferInstance

instance transOrd_word : Std.TransOrd U256 := inferInstance

instance transOrd_slot : Std.TransOrd (Address × U256) := inferInstance

/-- The two lower case digits of a byte. -/
def hexDigits (byte : UInt8) : List Char :=
  [Nat.digitChar (byte.toNat / 16), Nat.digitChar (byte.toNat % 16)]

/-- The digits of a byte string. -/
def hexString (bytes : Bytes) : String := String.ofList (bytes.flatMap hexDigits)

/-- The `{:#x}` rendering of an address or a hash of `width` bytes. -/
def lowerHex {bits : ℕ} (width : ℕ) (word : BitVec bits) : String :=
  "0x" ++ hexString (word.toBeBytes width)

/-- Contract bytecode, identified with the bytes it was made from. -/
structure Bytecode where
  originalBytes : Bytes
deriving DecidableEq

namespace Bytecode

/-- The bytecode of an account without code. -/
def default : Bytecode := ⟨[]⟩

/-- There is no code. -/
def isEmpty (code : Bytecode) : Bool := code.originalBytes.isEmpty

end Bytecode

/-- keccak256 of empty input, the "no code" hash. -/
def keccakEmpty : B256 :=
  0xc5d2460186f7233c927e7db2dcc703c0e500b653ca82273b7bfad8045d85a470

/-- Balance, nonce and code of an account; the code itself may be left out. -/
structure AccountInfo where
  balance : U256
  nonce : U64
  codeHash : B256
  code : Option Bytecode
deriving DecidableEq

namespace AccountInfo

/-- An account with its code. -/
def new (balance : U256) (nonce : U64) (codeHash : B256) (code : Bytecode) : AccountInfo :=
  { balance, nonce, codeHash, code := some code }

/-- The account which does not exist. -/
def default : AccountInfo := new 0 0 keccakEmpty Bytecode.default

end AccountInfo

/-- The flags of a journal entry. -/
structure AccountStatus where
  created : Bool
  selfDestructed : Bool
  touched : Bool
deriving DecidableEq

/-- A storage slot of a journal entry. -/
structure EvmStorageSlot where
  presentValue : U256
deriving DecidableEq

/-- An account as REVM's journal holds it. -/
structure Account where
  info : AccountInfo
  status : AccountStatus
  storage : IterMap U256 EvmStorageSlot
deriving DecidableEq

namespace Account

/-- The account was destroyed. -/
def isSelfdestructed (account : Account) : Bool := account.status.selfDestructed

/-- The account was created by a transaction of the batch. -/
def isCreated (account : Account) : Bool := account.status.created

/-- The account was touched by a transaction of the batch. -/
def isTouched (account : Account) : Bool := account.status.touched

/-- The present value of a slot, if the entry has the slot. -/
def present? (account : Account) (slot : U256) : Option U256 :=
  (account.storage.get? slot).map EvmStorageSlot.presentValue

end Account

/-- The changes REVM reports for a batch. -/
abbrev EvmState := IterMap Address Account

/-- Two accounts whose storage maps yield the same entries, in any order. -/
structure Account.Reordered (left right : Account) : Prop where
  info : left.info = right.info
  status : left.status = right.status
  storage : left.storage.entries.Perm right.storage.entries

/-- Two states which yield the same accounts, in any order at both levels. -/
def EvmState.Reordered (left right : EvmState) : Prop :=
  IterMap.Reordered Account.Reordered left right

theorem Account.Reordered.present?_eq {left right : Account} (reordered : left.Reordered right)
    (slot : U256) : left.present? slot = right.present? slot := by
  rw [present?, present?]
  congr 1
  apply Option.ext
  intro value
  rw [left.storage.get?_eq_some_iff, right.storage.get?_eq_some_iff, reordered.storage.mem_iff]

/-- Read access to a state: the answers to REVM's four queries. -/
@[ext]
structure DatabaseRef (ε : Type) where
  basicRef : Address → Except ε (Option AccountInfo)
  codeByHashRef : B256 → Except ε Bytecode
  storageRef : Address → U256 → Except ε U256
  blockHashRef : U64 → Except ε B256

end Zkhood
