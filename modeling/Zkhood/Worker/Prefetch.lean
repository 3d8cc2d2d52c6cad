import Mathlib.Data.Set.Lattice
import Mathlib.Order.ConditionallyCompleteLattice.Basic
import Zkhood.Worker.AccessList

/-!
# Sequences of fetches

What a call of `fetchAccount` records depends on the block and on the server's
answers, but not on what has been recorded before. So the calls of a sequence
join what they record, as sets of keys, and since the recorded values are true
the keys determine the provider: fetches commute, repeating one changes nothing,
and nothing which has been recorded is ever changed or lost.
-/

namespace Zkhood

open VerifiedStateProvider

/-- Sets of keys of the three maps of a provider. -/
abbrev Recorded := Set Address × Set (Address × U256) × Set B256

/-- The keys which a provider has recorded. -/
def VerifiedStateProvider.recorded (self : VerifiedStateProvider) : Recorded :=
  ({address | address ∈ self.accounts}, {key | key ∈ self.storage},
    {codeHash | codeHash ∈ self.code})

/-- From every provider for the block, the operation adds these keys and has this result. -/
def Adds {α : Type} (block : VerifiedL2Block)
    (operation : VerifiedStateProvider → VerifiedStateProvider × α) (added : Recorded)
    (result : α) : Prop :=
  ∀ provider : VerifiedStateProvider, provider.block = block →
    (operation provider).1.recorded = provider.recorded ⊔ added ∧
      (operation provider).2 = result ∧ (operation provider).1.block = block

section Operations

variable {alloy : Alloy} {block : VerifiedL2Block} {address : Address}

theorem recorded_insert_storage (provider : VerifiedStateProvider) (key : Address × U256)
    (value : U256) :
    ({ provider with storage := provider.storage.insert key value } :
      VerifiedStateProvider).recorded = provider.recorded ⊔ (∅, {key}, ∅) := by
  refine Prod.ext ?_ (Prod.ext ?_ ?_)
  · simp [recorded]
  · ext other
    simp only [recorded, Std.ExtTreeMap.mem_insert, Std.compare_eq_iff_eq, Set.mem_ofPred_eq,
      Prod.snd_sup, Prod.fst_sup, Set.sup_eq_union, Set.mem_union, Set.mem_singleton_iff]
    rw [eq_comm, or_comm]
  · simp [recorded]

theorem recorded_recordAccount (provider : VerifiedStateProvider)
    (proof : EIP1186AccountProofResponse) (code : Option Bytecode) :
    (provider.recordAccount address proof code).recorded =
      provider.recorded ⊔ ({address}, ∅, if code.isSome then {proof.codeHash} else ∅) := by
  refine Prod.ext ?_ (Prod.ext ?_ ?_)
  · ext other
    simp only [recorded, recordAccount, Std.ExtTreeMap.mem_insert, Std.compare_eq_iff_eq,
      Set.mem_ofPred_eq, Prod.fst_sup, Set.sup_eq_union, Set.mem_union, Set.mem_singleton_iff]
    rw [eq_comm, or_comm]
  · simp [recorded, recordAccount]
  · ext codeHash
    cases code with
    | none => simp [recorded, recordAccount]
    | some bytecode =>
        simp only [recorded, recordAccount, Std.ExtTreeMap.mem_insert, Std.compare_eq_iff_eq,
          Set.mem_ofPred_eq, Prod.snd_sup, Set.sup_eq_union, Set.mem_union,
          Option.isSome_some, if_true, Set.mem_singleton_iff]
        rw [eq_comm, or_comm]

/-- What the storage loop adds does not depend on what was recorded. -/
theorem adds_recordStorage (alloy : Alloy) (block : VerifiedL2Block) (address : Address)
    (storageHash : B256) (storageProofs : List EIP1186StorageProof) :
    ∃ added result, Adds block
      (fun provider => provider.recordStorage alloy address storageHash storageProofs)
      added result := by
  induction storageProofs with
  | nil => exact ⟨⊥, .ok (), fun provider anchored => ⟨(sup_bot_eq _).symm, rfl, anchored⟩⟩
  | cons storageProof rest ih =>
      simp only [Adds, VerifiedStateProvider.recordStorage]
      cases alloy.verifyProof storageHash (slotKey alloy storageProof.key.asB256)
          (expectedSlotRlp storageProof.value) storageProof.proof with
      | error report =>
          exact ⟨⊥, _, fun provider anchored => ⟨(sup_bot_eq _).symm, rfl, anchored⟩⟩
      | ok accepted =>
          rcases ih with ⟨added, result, adds⟩
          refine ⟨(∅, {(address, storageProof.key.asB256)}, ∅) ⊔ added, result, ?_⟩
          intro provider anchored
          rcases adds { provider with
            storage := provider.storage.insert (address, storageProof.key.asB256)
              storageProof.value } anchored with ⟨grown, reported, still⟩
          rw [recorded_insert_storage, sup_assoc] at grown
          exact ⟨grown, reported, still⟩

/-- A call adds the same keys, and fails or succeeds alike, whatever has been recorded before. -/
theorem adds_fetchAccount (alloy : Alloy) (block : VerifiedL2Block) (call : FetchCall) :
    ∃ added result, Adds block
      (fun provider => provider.fetchAccount alloy call.l2Rpc call.address call.slots)
      added result := by
  have proven : ∀ provider : VerifiedStateProvider, provider.block = block →
      provider.proveAccount alloy call.l2Rpc call.address call.slots =
        (VerifiedStateProvider.new block).proveAccount alloy call.l2Rpc call.address
          call.slots := by
    rintro provider rfl
    rfl
  simp only [Adds, VerifiedStateProvider.fetchAccount]
  cases proof_found : (VerifiedStateProvider.new block).proveAccount alloy call.l2Rpc call.address
      call.slots with
  | error report =>
      refine ⟨⊥, .error (.report report), ?_⟩
      intro provider anchored
      rw [proven provider anchored, proof_found]
      exact ⟨(sup_bot_eq _).symm, rfl, anchored⟩
  | ok answer =>
      rcases answer with ⟨rpc, proof⟩
      rcases adds_recordStorage alloy block call.address proof.storageHash proof.storageProof with
        ⟨slots, stored_result, adds⟩
      have recorded_as : ∀ provider : VerifiedStateProvider, provider.block = block →
          provider.recordStorage alloy call.address proof.storageHash proof.storageProof =
            ((provider.recordStorage alloy call.address proof.storageHash proof.storageProof).1,
              stored_result) :=
        fun provider anchored => Prod.ext rfl (adds provider anchored).2.1
      cases stored_result with
      | error report =>
          refine ⟨slots, .error (.report report), ?_⟩
          intro provider anchored
          rcases adds provider anchored with ⟨grown, -, still⟩
          rw [proven provider anchored, proof_found]
          dsimp only
          rw [recorded_as provider anchored]
          exact ⟨grown, rfl, still⟩
      | ok accepted =>
          cases fetched : fetchCode alloy rpc block call.address proof with
          | error failure =>
              refine ⟨slots, .error failure, ?_⟩
              intro provider anchored
              rcases adds provider anchored with ⟨grown, -, still⟩
              rw [proven provider anchored, proof_found]
              dsimp only
              rw [recorded_as provider anchored]
              simp only at still
              simp only [still, fetched]
              exact ⟨grown, trivial, trivial⟩
          | ok code =>
              refine ⟨slots ⊔ ({call.address}, ∅, if code.isSome then {proof.codeHash} else ∅),
                .ok (), ?_⟩
              intro provider anchored
              rcases adds provider anchored with ⟨grown, -, still⟩
              rw [proven provider anchored, proof_found]
              dsimp only
              rw [recorded_as provider anchored]
              simp only at still grown
              simp only [still, fetched, recorded_recordAccount, grown, sup_assoc]
              exact ⟨trivial, trivial, still⟩

end Operations

section Sequences

variable {alloy : Alloy} {world : ConfirmedBlock alloy} {provider other : VerifiedStateProvider}

/-- The calls add the union of what each adds. -/
theorem recorded_fetchAll {block : VerifiedL2Block} {added : FetchCall → Recorded}
    {result : FetchCall → Except (Failure String) Unit}
    (adds : ∀ call, Adds block
      (fun provider => provider.fetchAccount alloy call.l2Rpc call.address call.slots)
      (added call) (result call))
    (calls : List FetchCall) (anchored : provider.block = block) :
    (provider.fetchAll alloy calls).recorded =
        provider.recorded ⊔ ⨆ call ∈ calls, added call ∧
      (provider.fetchAll alloy calls).block = block := by
  induction calls generalizing provider with
  | nil => simp [fetchAll, anchored]
  | cons call rest ih =>
      rcases adds call provider anchored with ⟨grown, -, still⟩
      rcases ih still with ⟨joined, later⟩
      refine ⟨?_, later⟩
      simp only [List.mem_cons, iSup_or, iSup_sup_eq, iSup_iSup_eq_left]
      rw [← sup_assoc, ← grown]
      exact joined

/-- Maps with the same keys are the same if the keys determine the values. -/
theorem eq_of_mem_iff {α β : Type} [Ord α] [Std.TransOrd α] [Std.LawfulEqOrd α]
    {left right : HashMap α β} (value : α → β) (keys : ∀ key, key ∈ left ↔ key ∈ right)
    (held : ∀ key found, left[key]? = some found → found = value key)
    (held' : ∀ key found, right[key]? = some found → found = value key) : left = right := by
  classical
  apply Std.ExtTreeMap.ext_getElem?
  intro key
  rw [getElem?_eq_ite (keys key) (held key), getElem?_eq_ite Iff.rfl (held' key)]

/-- What has been recorded is true, so the keys determine the provider. -/
theorem Authentic.eq_of_recorded_eq (authentic : Authentic world provider)
    (authentic' : Authentic world other) (block : provider.block = other.block)
    (same : provider.recorded = other.recorded) : provider = other := by
  have code_value : ∀ {self : VerifiedStateProvider}, Authentic world self →
      ∀ codeHash found, self.code[codeHash]? = some found →
        found = Bytecode.mk (world.state.code codeHash) := by
    intro self is_authentic codeHash found held
    rcases is_authentic.code codeHash found held with ⟨_, _, -, -, is_code⟩
    exact is_code
  rw [recorded, recorded, Prod.mk.injEq, Prod.mk.injEq] at same
  rcases same with ⟨accounts, storage, code⟩
  have accounts_eq := eq_of_mem_iff world.state.info
    (fun address => Set.ext_iff.mp accounts address) authentic.accounts authentic'.accounts
  have storage_eq : provider.storage = other.storage :=
    eq_of_mem_iff (fun key : Address × U256 => world.state.slot key.1 key.2)
      (fun key => Set.ext_iff.mp storage key)
      (fun key found held => authentic.storage key.1 key.2 found held)
      (fun key found held => authentic'.storage key.1 key.2 found held)
  have code_eq := eq_of_mem_iff (fun codeHash => Bytecode.mk (world.state.code codeHash))
    (fun codeHash => Set.ext_iff.mp code codeHash) (code_value authentic) (code_value authentic')
  rcases provider with ⟨_, _, _, _⟩
  rcases other with ⟨_, _, _, _⟩
  congr

/-- A recorded entry stays as it is while more keys are recorded. -/
theorem getElem?_eq_some_of_mem {α β : Type} [Ord α] [Std.TransOrd α] {left right : HashMap α β}
    {key : α} {value found : β} (held : left[key]? = some found) (left_value : found = value)
    (kept : key ∈ left → key ∈ right) (right_value : ∀ found, right[key]? = some found →
      found = value) : right[key]? = some found := by
  have recorded := Std.ExtTreeMap.getElem?_eq_some_getElem
    (kept (Std.ExtTreeMap.mem_iff_isSome_getElem?.mpr (by rw [held]; rfl)))
  rw [recorded, right_value _ recorded, left_value]

end Sequences

/-- Fetches commute and are idempotent, whatever the servers answer to each of them and whichever
fail: a sequence leaves what any other sequence of the same calls leaves, it changes no entry which
was recorded before, and it does not change the result of a later call. -/
theorem fetches_commute {alloy : Alloy} (world : ConfirmedBlock alloy)
    (collisionFree : world.CollisionFree) (keccak_nil : alloy.keccak256 [] = keccakEmpty)
    {provider : VerifiedStateProvider} (authentic : Authentic world provider)
    (calls : List FetchCall) :
    (∀ calls' : List FetchCall, (∀ call, call ∈ calls ↔ call ∈ calls') →
      provider.fetchAll alloy calls = provider.fetchAll alloy calls') ∧
    ((∀ (address : Address) (info : AccountInfo), provider.accounts[address]? = some info →
        (provider.fetchAll alloy calls).accounts[address]? = some info) ∧
      (∀ (key : Address × U256) (value : U256), provider.storage[key]? = some value →
        (provider.fetchAll alloy calls).storage[key]? = some value) ∧
      ∀ (codeHash : B256) (code : Bytecode), provider.code[codeHash]? = some code →
        (provider.fetchAll alloy calls).code[codeHash]? = some code) ∧
    ∀ call : FetchCall,
      ((provider.fetchAll alloy calls).fetchAccount alloy call.l2Rpc call.address call.slots).2 =
        (provider.fetchAccount alloy call.l2Rpc call.address call.slots).2 := by
  choose added result adds using adds_fetchAccount alloy provider.block
  have later := authentic_fetchAll authentic collisionFree keccak_nil
  rcases recorded_fetchAll adds calls rfl with ⟨joined, still⟩
  have grown : provider.recorded ≤ (provider.fetchAll alloy calls).recorded :=
    joined ▸ le_sup_left
  refine ⟨?_, ⟨?_, ?_, ?_⟩, ?_⟩
  · intro calls' same
    rcases recorded_fetchAll adds calls' rfl with ⟨joined', still'⟩
    refine (later calls).eq_of_recorded_eq (later calls') (still.trans still'.symm) ?_
    rw [joined, joined']
    simp only [same]
  · intro address info held
    exact getElem?_eq_some_of_mem held (authentic.accounts address info held)
      (fun recorded => grown.1 recorded) ((later calls).accounts address)
  · rintro ⟨address, index⟩ value held
    exact getElem?_eq_some_of_mem held (authentic.storage address index value held)
      (fun recorded => grown.2.1 recorded) ((later calls).storage address index)
  · intro codeHash code held
    rcases authentic.code codeHash code held with ⟨_, _, -, -, is_code⟩
    refine getElem?_eq_some_of_mem held is_code (fun recorded => grown.2.2 recorded) ?_
    intro found held'
    rcases (later calls).code codeHash found held' with ⟨_, _, -, -, is_code'⟩
    exact is_code'
  · intro call
    rw [(adds call _ still).2.1, (adds call provider rfl).2.1]

/-- A call which fails, an account and a missing account, and the same in another order and with
a repetition. -/
theorem fetches_commute_oneAccount :
    let provider := VerifiedStateProvider.new
      { number := 1, hash := OneAccount.blockHash, stateRoot := OneAccount.stateRoot }
    let failing : FetchCall := ⟨.error "offline", 0x33, []⟩
    let account : FetchCall := ⟨.ok OneAccount.l2, 0x11, [1]⟩
    let missing : FetchCall := ⟨.ok OneAccount.l2, 0x22, []⟩
    provider.fetchAll OneAccount.alloy [failing, account, missing] =
      provider.fetchAll OneAccount.alloy [missing, account, missing, failing] := by
  intro provider failing account missing
  have authentic : Authentic OneAccount.world provider := Authentic.new rfl
  refine (fetches_commute OneAccount.world OneAccount.collisionFree (by decide) authentic
    [failing, account, missing]).1 _ ?_
  intro call
  simp only [List.mem_cons, List.not_mem_nil, or_false]
  tauto

end Zkhood
