import Zkhood.State

/-!
# The in-memory state provider

`MockRobinhoodStateProvider` answers every query from three maps. It verifies
nothing. The TEE worker runs explicit mock requests against it, and the SP1
guest receives it as part of its witness.
-/

namespace Zkhood

/-- Accounts, storage and code given by hand. -/
structure MockRobinhoodStateProvider where
  accounts : HashMap Address AccountInfo
  storage : HashMap (Address × U256) U256
  code : HashMap B256 Bytecode

namespace MockRobinhoodStateProvider

/-- The provider without entries. -/
def new : MockRobinhoodStateProvider := ⟨∅, ∅, ∅⟩

/-- Sets an account. -/
def setAccount (self : MockRobinhoodStateProvider) (address : Address) (info : AccountInfo) :
    MockRobinhoodStateProvider :=
  { self with accounts := self.accounts.insert address info }

/-- Sets a storage slot. -/
def setStorage (self : MockRobinhoodStateProvider) (address : Address) (index value : U256) :
    MockRobinhoodStateProvider :=
  { self with storage := self.storage.insert (address, index) value }

/-- Sets the code with a hash. -/
def setCode (self : MockRobinhoodStateProvider) (hash : B256) (code : Bytecode) :
    MockRobinhoodStateProvider :=
  { self with code := self.code.insert hash code }

/-- The answers of the maps; what they lack is missing, empty or zero. -/
def databaseRef (self : MockRobinhoodStateProvider) : DatabaseRef Infallible where
  basicRef address := .ok self.accounts[address]?
  codeByHashRef codeHash := .ok (self.code[codeHash]?.getD Bytecode.default)
  storageRef address index := .ok (self.storage[(address, index)]?.getD 0)
  blockHashRef _ := .ok 0

end MockRobinhoodStateProvider

end Zkhood
