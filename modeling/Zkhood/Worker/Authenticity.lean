import Zkhood.Bridge.FetchAccount
import Zkhood.Worker.Exec

/-!
# Authenticity of the verified provider

What a `VerifiedStateProvider` has recorded is true in the state of the
confirmed block, whatever the untrusted servers answer: after every sequence of
`fetchAccount` calls, also of those which fail half-way, and so for every access
list.
-/

namespace Zkhood

/-- Every entry which a provider for a block has recorded is the true one. -/
structure Authentic {alloy : Alloy} (world : ConfirmedBlock alloy)
    (provider : VerifiedStateProvider) : Prop where
  root : provider.block.stateRoot = world.header.stateRoot
  accounts : ∀ address info, provider.accounts[address]? = some info →
    info = world.state.info address
  storage : ∀ address index value, provider.storage[(address, index)]? = some value →
    value = world.state.slot address index
  code : ∀ codeHash code, provider.code[codeHash]? = some code →
    ∃ address leaf, world.state.leaf address = some leaf ∧ leaf.codeHash = codeHash ∧
      code = ⟨world.state.code codeHash⟩

namespace Authentic

variable {alloy : Alloy} {world : ConfirmedBlock alloy} {provider : VerifiedStateProvider}
  {address : Address} {proof : EIP1186AccountProofResponse}

theorem new {block : VerifiedL2Block} (root : block.stateRoot = world.header.stateRoot) :
    Authentic world (VerifiedStateProvider.new block) where
  root := root
  accounts := by simp [VerifiedStateProvider.new]
  storage := by simp [VerifiedStateProvider.new]
  code := by simp [VerifiedStateProvider.new]

/-- Recording proved slots keeps a provider authentic. -/
theorem recordStorage (authentic : Authentic world provider)
    (described : proof.Describes world.state address) (storageProofs : List EIP1186StorageProof) :
    Authentic world (provider.recordStorage alloy address proof.storageHash storageProofs).1 := by
  induction storageProofs generalizing provider with
  | nil => exact authentic
  | cons storageProof rest ih =>
      rw [VerifiedStateProvider.recordStorage]
      split
      · exact authentic
      · rename_i verified
        apply ih
        have value := world.holds.slot_eq described verified
        refine { authentic with storage := ?_ }
        intro other index recorded held
        rw [Std.ExtTreeMap.getElem?_insert] at held
        split at held
        · rename_i same
          rw [Std.compare_eq_iff_eq, Prod.mk.injEq] at same
          cases held
          rw [value, ← same.1, ← same.2]
        · exact authentic.storage other index recorded held

/-- Recording a proved account keeps a provider authentic. -/
theorem recordAccount (authentic : Authentic world provider) (collisionFree : world.CollisionFree)
    (keccak_nil : alloy.keccak256 [] = keccakEmpty)
    (described : proof.Describes world.state address) {rpc : L2Rpc} {block : VerifiedL2Block}
    {code : Option Bytecode}
    (fetched : VerifiedStateProvider.fetchCode alloy rpc block address proof = .ok code) :
    Authentic world (provider.recordAccount address proof code) where
  root := authentic.root
  accounts := by
    intro other info held
    simp only [VerifiedStateProvider.recordAccount, Std.ExtTreeMap.getElem?_insert] at held
    split at held
    · rename_i same
      rw [Std.compare_eq_iff_eq] at same
      cases held
      rw [world.holds.info_eq collisionFree.code keccak_nil described fetched, same]
    · exact authentic.accounts other info held
  storage := authentic.storage
  code := by
    intro codeHash recorded held
    simp only [VerifiedStateProvider.recordAccount] at held
    rcases VerifiedStateProvider.fetchCode_ok fetched with
      ⟨rfl, -⟩ | ⟨bytes, -, hashed, rfl, nonempty, -⟩
    · exact authentic.code codeHash recorded held
    · rw [EIP1186AccountProofResponse.Describes, if_neg nonempty] at described
      rw [Std.ExtTreeMap.getElem?_insert] at held
      split at held
      · rename_i same
        rw [Std.compare_eq_iff_eq] at same
        cases held
        refine ⟨address, _, described, same, ?_⟩
        rw [← same, world.holds.code_eq collisionFree.code described hashed]
      · exact authentic.code codeHash recorded held

/-- One call, whatever the server answers and whether or not it fails. -/
theorem fetchAccount (authentic : Authentic world provider) (collisionFree : world.CollisionFree)
    (keccak_nil : alloy.keccak256 [] = keccakEmpty) (l2Rpc : Endpoint L2Rpc) (address : Address)
    (slots : List U256) :
    Authentic world (provider.fetchAccount alloy l2Rpc address slots).1 := by
  rw [VerifiedStateProvider.fetchAccount]
  split
  · exact authentic
  · rename_i rpc proof proven
    rcases VerifiedStateProvider.proveAccount_ok proven with ⟨-, -, verified⟩
    rw [authentic.root] at verified
    have described := world.holds.describes verified
    have stored := authentic.recordStorage described proof.storageProof
    split
    · rename_i partly report recorded
      rw [recorded] at stored
      exact stored
    · rename_i recorded_provider recorded
      rw [recorded] at stored
      split
      · exact stored
      · rename_i code fetched
        exact stored.recordAccount collisionFree keccak_nil described fetched

end Authentic

/-- A call of `fetch_account`, with the server as it behaves during the call. -/
structure FetchCall where
  l2Rpc : Endpoint L2Rpc
  address : Address
  slots : List U256

/-- The provider after a sequence of calls, some of which may have failed. -/
def VerifiedStateProvider.fetchAll (alloy : Alloy) (provider : VerifiedStateProvider)
    (calls : List FetchCall) : VerifiedStateProvider :=
  calls.foldl (fun provider call =>
    (provider.fetchAccount alloy call.l2Rpc call.address call.slots).1) provider

section Runs

variable {alloy : Alloy} {world : ConfirmedBlock alloy} {provider : VerifiedStateProvider}

/-- Every sequence of calls keeps a provider authentic. -/
theorem authentic_fetchAll (authentic : Authentic world provider)
    (collisionFree : world.CollisionFree) (keccak_nil : alloy.keccak256 [] = keccakEmpty)
    (calls : List FetchCall) : Authentic world (provider.fetchAll alloy calls) := by
  induction calls generalizing provider with
  | nil => exact authentic
  | cons call rest ih =>
      exact ih (authentic.fetchAccount collisionFree keccak_nil call.l2Rpc call.address call.slots)

/-- The loop over an access list makes the calls for its first entries. -/
theorem fetchAccessList_eq_fetchAll (alloy : Alloy) (provider : VerifiedStateProvider)
    (l2Account : ℕ → Endpoint L2Rpc) (index : ℕ)
    (accessList : List AccountAccess) :
    ∃ calls, (fetchAccessList alloy provider l2Account index accessList).1 =
      provider.fetchAll alloy calls := by
  induction accessList generalizing provider index with
  | nil => exact ⟨[], rfl⟩
  | cons acc rest ih =>
      rw [fetchAccessList]
      split
      · rename_i next report fetched
        refine ⟨[⟨l2Account index, acc.address, acc.slots⟩], ?_⟩
        simp only [VerifiedStateProvider.fetchAll, List.foldl_cons, List.foldl_nil, fetched]
      · rename_i next fetched
        rcases ih next (index + 1) with ⟨calls, later⟩
        refine ⟨⟨l2Account index, acc.address, acc.slots⟩ :: calls, ?_⟩
        rw [later]
        simp only [VerifiedStateProvider.fetchAll, List.foldl_cons, fetched]

/-- Once the anchor and the state root have been verified, every entry which the provider records
is true in the state of the confirmed block, after any calls and for every access list. -/
theorem recorded_entries_authentic (world : ConfirmedBlock alloy)
    (collisionFree : world.CollisionFree) (keccak_nil : alloy.keccak256 [] = keccakEmpty)
    {heliosRpc : Endpoint HeliosRpc} {l1Rpc : Endpoint L1Rpc} {network : NetworkConfig}
    (honest : ∀ rpc, heliosRpc = .ok rpc → world.Honest network.rollupAddress rpc)
    {anchor : VerifiedL2Anchor}
    (anchored : verifyLatestL2Anchor alloy heliosRpc l1Rpc network = .ok anchor)
    {l2Rpc : Endpoint L2Rpc} {block : VerifiedL2Block}
    (rooted : fetchVerifiedStateRoot alloy l2Rpc anchor.l2BlockHash = .ok block) :
    (∀ calls : List FetchCall,
      Authentic world ((VerifiedStateProvider.new block).fetchAll alloy calls)) ∧
    ∀ (l2Account : ℕ → Endpoint L2Rpc) (accessList : List AccountAccess),
      Authentic world
        (fetchAccessList alloy (VerifiedStateProvider.new block) l2Account 0 accessList).1 := by
  rw [world.l2BlockHash_eq collisionFree honest anchored] at rooted
  have fresh := Authentic.new (world.stateRoot_eq collisionFree rooted).2
  constructor
  · exact authentic_fetchAll fresh collisionFree keccak_nil
  · intro l2Account accessList
    rcases fetchAccessList_eq_fetchAll alloy (VerifiedStateProvider.new block) l2Account 0
      accessList with ⟨calls, fetched⟩
    rw [fetched]
    exact authentic_fetchAll fresh collisionFree keccak_nil calls

/-- Calls for the account with a slot, for an absent account and to a server which cannot be
reached. -/
theorem recorded_entries_authentic_oneAccount :
    let provider := (VerifiedStateProvider.new
      { number := 1, hash := OneAccount.blockHash, stateRoot := OneAccount.stateRoot }).fetchAll
        OneAccount.alloy [⟨.ok OneAccount.l2, 0x11, [1]⟩, ⟨.ok OneAccount.l2, 0x22, []⟩,
          ⟨.error "offline", 0x33, []⟩]
    provider.accounts.keys = [0x11, 0x22] ∧ provider.storage.keys = [(0x11, 1)] ∧
      Authentic OneAccount.world provider := by
  refine ⟨by decide +kernel, by decide +kernel, ?_⟩
  exact (recorded_entries_authentic OneAccount.world OneAccount.collisionFree (by decide)
    (fun rpc connected => Except.ok.inj connected ▸ OneAccount.honest) OneAccount.anchored
    OneAccount.rooted).1 _

end Runs

end Zkhood
