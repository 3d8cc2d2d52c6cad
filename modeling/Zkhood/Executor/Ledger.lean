import Mathlib.Algebra.BigOperators.Group.Finset.Basic
import Zkhood.Executor.Transfer
import Zkhood.Overlay.Invariant

/-!
# The value which a rollup holds

The overlay is the only ledger of the rollup. A balance enters it when a batch
touches an account for the first time: it is the balance which the base of that
batch reports. From then on the overlay shadows the account, and no later base
adds to it or takes from it.

Value leaves the overlay only when a batch ends with a destroyed account which
holds a balance again: persisting the batch drops the account with the balance.
So if REVM moves value without creating or destroying any, the balances of an
overlay and those which were dropped always sum up to what has entered it,
whatever the bases report later.
-/

namespace Zkhood

variable {ε : Type}

/-- The balance in the answer of a database; a missing account has none. -/
def balanceIn (answer : Except ε (Option AccountInfo)) : U256 :=
  match answer with
  | .ok (some info) => info.balance
  | _ => 0

/-- The balance of an account in the current state: that of its journal entry, whatever the flags of
the entry are, or else that of the database. -/
def currentBalance (revm : Revm ε) (database : DatabaseRef ε) (evm : revm.Evm)
    (address : Address) : U256 :=
  match (revm.finalize evm).get? address with
  | some account => account.info.balance
  | none => balanceIn (database.basicRef address)

/-- The value in some accounts. -/
def total (balance : Address → U256) (addresses : Finset Address) : ℕ :=
  ∑ address ∈ addresses, (balance address).toNat

/-- The addresses which have an entry. -/
def EvmState.addresses (state : EvmState) : Finset Address :=
  (state.entries.map Prod.fst).toFinset

/-- The balance which persisting the state drops, that of a destroyed account. -/
def EvmState.droppedBalance (state : EvmState) (address : Address) : U256 :=
  match state.get? address with
  | some account => if account.isSelfdestructed then account.info.balance else 0
  | none => 0

theorem EvmState.mem_addresses (state : EvmState) (address : Address) :
    address ∈ EvmState.addresses state ↔ (state.get? address).isSome := by
  rw [addresses, List.mem_toFinset, List.mem_map, IterMap.get?_isSome_iff]

/-- What REVM does with its journal. -/
structure JournalDiscipline (revm : Revm ε) : Prop where
  /-- A fresh EVM has an empty journal. -/
  fresh : ∀ database chainId address,
    (revm.finalize (revm.build database chainId)).get? address = none
  /-- An account which the journal has loaded stays in it. -/
  kept : ∀ database chainId txs evm tx next, revm.Reaches database chainId txs evm →
    revm.txStep evm tx = some next →
    EvmState.addresses (revm.finalize evm) ⊆ EvmState.addresses (revm.finalize next)

/-- No transaction of a batch changes the value in the accounts which the journal has loaded. -/
def ConservesValue (revm : Revm ε) (database : DatabaseRef ε) (chainId : U64)
    (txs : List TxEnv) : Prop :=
  ∀ front tx back evm next, txs = front ++ tx :: back →
    revm.Reaches database chainId front evm → revm.txStep evm tx = some next →
    ∀ loaded, EvmState.addresses (revm.finalize next) ⊆ loaded →
      total (currentBalance revm database next) loaded =
        total (currentBalance revm database evm) loaded

section Batch

variable {revm : Revm ε} {database : DatabaseRef ε} {chainId : U64} {txs : List TxEnv}
  {evm : revm.Evm}

theorem JournalDiscipline.kept_by_run (discipline : JournalDiscipline revm)
    {front back : List TxEnv} {reached : revm.Evm} (reaches : revm.Reaches database chainId front
      reached) (executed : Trace.run revm.txStep reached back = some evm) :
    EvmState.addresses (revm.finalize reached) ⊆ EvmState.addresses (revm.finalize evm) := by
  refine Trace.run_induction (fun _ (evm : revm.Evm) =>
    EvmState.addresses (revm.finalize reached) ⊆ EvmState.addresses (revm.finalize evm))
    (Finset.Subset.refl _) ?_ executed
  intro done before tx next ran ih stepped
  have reaches_before : revm.Reaches database chainId (front ++ done) before := by
    rw [Revm.Reaches, Trace.run_append, reaches]
    exact ran
  exact ih.trans (discipline.kept _ _ _ _ _ _ reaches_before stepped)

/-- A batch leaves the accounts which it loads with the value which its database reports. -/
theorem ConservesValue.total_eq (conserves : ConservesValue revm database chainId txs)
    (discipline : JournalDiscipline revm) (reaches : revm.Reaches database chainId txs evm)
    {loaded : Finset Address} (covers : EvmState.addresses (revm.finalize evm) ⊆ loaded) :
    total (currentBalance revm database evm) loaded =
      total (fun address => balanceIn (database.basicRef address)) loaded := by
  suffices general : ∀ front reached, revm.Reaches database chainId front reached →
      (∃ back, txs = front ++ back ∧ Trace.run revm.txStep reached back = some evm) →
      total (currentBalance revm database reached) loaded =
        total (fun address => balanceIn (database.basicRef address)) loaded from
    general txs evm reaches ⟨[], by simp, rfl⟩
  intro front reached executed
  refine Trace.run_induction (fun front (reached : revm.Evm) =>
    (∃ back, txs = front ++ back ∧ Trace.run revm.txStep reached back = some evm) →
      total (currentBalance revm database reached) loaded =
        total (fun address => balanceIn (database.basicRef address)) loaded) ?_ ?_ executed
  · intro _
    rw [total, total]
    apply Finset.sum_congr rfl
    intro address _
    rw [currentBalance, discipline.fresh]
  · rintro front reached tx next reaches_front ih stepped ⟨back, split, finished⟩
    have split_here : txs = front ++ tx :: back := by simp [split]
    have reaches_next : revm.Reaches database chainId (front ++ [tx]) next :=
      Trace.run_concat_eq_some_iff.mpr ⟨reached, reaches_front, stepped⟩
    have later : EvmState.addresses (revm.finalize next) ⊆ loaded :=
      (discipline.kept_by_run reaches_next finished).trans covers
    rw [conserves front tx back reached next split_here reaches_front stepped loaded later]
    refine ih ⟨tx :: back, split_here, ?_⟩
    rw [Trace.run, stepped]
    exact finished

end Batch

namespace OverlayState

/-- The addresses which an overlay answers for. -/
def held (self : OverlayState) : Finset Address :=
  (self.accounts.keys ++ self.destroyed.toList).toFinset

/-- An overlay answers for an address which it holds or destroyed. -/
theorem mem_held (self : OverlayState) (address : Address) :
    address ∈ self.held ↔ (self.view address).info.isSome ∨ (self.view address).destroyed := by
  rw [held, List.mem_toFinset, List.mem_append, Std.ExtTreeMap.mem_keys,
    Std.ExtTreeSet.mem_toList, mem_accounts_iff, mem_destroyed_iff]

theorem balanceOf_eq (self : OverlayState) (address : Address) :
    self.balanceOf address = ((self.view address).info.map AccountInfo.balance).getD 0 := rfl

/-- The balance of an address after a batch is that of the batch's entry for it. -/
theorem balanceOf_merge (self : OverlayState) (diff : EvmState) (commitment : Hash)
    (address : Address) :
    ((self.applyEvmState diff).setCommitment commitment).balanceOf address =
      match diff.get? address with
      | some account => if account.isSelfdestructed then 0 else account.info.balance
      | none => self.balanceOf address := by
  rw [balanceOf_eq, view_setCommitment, view_applyEvmState]
  cases diff.get? address with
  | none => rfl
  | some account =>
      simp only [Option.elim_some, Account.mergeView]
      cases account.isSelfdestructed <;> rfl

/-- A batch makes the overlay answer for the addresses it reports. -/
theorem mem_held_merge (self : OverlayState) (diff : EvmState) (commitment : Hash)
    (address : Address) :
    address ∈ ((self.applyEvmState diff).setCommitment commitment).held ↔
      address ∈ self.held ∨ address ∈ EvmState.addresses diff := by
  rw [mem_held, mem_held, EvmState.mem_addresses, view_setCommitment, view_applyEvmState]
  cases diff.get? address with
  | none => simp
  | some account =>
      simp only [Option.elim_some, Account.mergeView]
      cases account.isSelfdestructed <;> simp

/-- A layered database reports the overlay's balance where the overlay answers, and else the
base's. -/
theorem balanceIn_layerOver {self : OverlayState} {merged : Address → Prop}
    (wellFormed : self.WellFormed merged) (base : DatabaseRef ε) (address : Address) :
    balanceIn ((self.layerOver base).basicRef address) =
      if address ∈ self.held then self.balanceOf address
      else balanceIn (base.basicRef address) := by
  have disjoint := wellFormed.disjoint address
  rw [mem_accounts_iff, mem_destroyed_iff] at disjoint
  simp only [basicRef_layerOver, AddressView.basic, balanceOf_eq, mem_held]
  cases dead : (self.view address).destroyed with
  | true =>
      rw [dead] at disjoint
      have gone : (self.view address).info = none := by simpa using disjoint
      simp [gone, balanceIn]
  | false => cases (self.view address).info <;> simp [balanceIn]

end OverlayState

section Run

variable {runtime : Runtime ε}

/-- The balance with which an address enters the overlay: the answer of the base of the first
successful batch which has an entry for it. -/
def entryBalance (runtime : Runtime ε) (overlay : OverlayState) :
    List (Batch ε) → Address → U256
  | [], _ => 0
  | batch :: rest, address =>
      match batchDiff runtime overlay batch, batchStep runtime overlay batch with
      | some diff, some next =>
          if address ∈ EvmState.addresses diff then balanceIn (batch.base.basicRef address)
          else entryBalance runtime next rest address
      | _, _ => entryBalance runtime overlay rest address

/-- The value which persisting the successful batches of a sequence drops. -/
def droppedValue (runtime : Runtime ε) (overlay : OverlayState) : List (Batch ε) → ℕ
  | [] => 0
  | batch :: rest =>
      match batchDiff runtime overlay batch, batchStep runtime overlay batch with
      | some diff, some next =>
          total diff.droppedBalance (EvmState.addresses diff) + droppedValue runtime next rest
      | _, _ => droppedValue runtime overlay rest

/-- All successful batches of a sequence conserve value. -/
def RunConservesValue (runtime : Runtime ε) (overlay : OverlayState) : List (Batch ε) → Prop
  | [] => True
  | batch :: rest =>
      match batchStep runtime overlay batch with
      | some next =>
          ConservesValue runtime.toRevm (overlay.layerOver batch.base) batch.ctx.chainId
            batch.txs ∧ RunConservesValue runtime next rest
      | none => RunConservesValue runtime overlay rest

theorem held_subset_overlayAfter (runtime : Runtime ε) (overlay : OverlayState)
    (batches : List (Batch ε)) : overlay.held ⊆ (overlayAfter runtime overlay batches).held := by
  induction batches generalizing overlay with
  | nil => exact Finset.Subset.refl _
  | cons batch rest ih =>
      rw [overlayAfter]
      cases stepped : batchStep runtime overlay batch with
      | none => exact ih overlay
      | some next =>
          rcases batchStep_eq_some stepped with ⟨diff, -, rfl⟩
          refine Finset.Subset.trans ?_ (ih _)
          exact fun address held => (overlay.mem_held_merge diff _ address).mpr (Or.inl held)

theorem balanceOf_add_droppedBalance (overlay : OverlayState) {database : DatabaseRef ε}
    {evm : runtime.Evm} (commitment : Hash) {address : Address}
    (loaded : address ∈ EvmState.addresses (runtime.finalize evm)) :
    (((overlay.applyEvmState (runtime.finalize evm)).setCommitment commitment).balanceOf
        address).toNat + (EvmState.droppedBalance (runtime.finalize evm) address).toNat =
      (currentBalance runtime.toRevm database evm address).toNat := by
  rcases Option.isSome_iff_exists.mp ((EvmState.mem_addresses _ _).mp loaded) with
    ⟨account, found⟩
  rw [OverlayState.balanceOf_merge, currentBalance, EvmState.droppedBalance, found]
  cases dead : account.isSelfdestructed <;> simp [dead]

/-- One batch, with any accounts among which are those it has loaded: they and what is dropped hold
what they held before, and those which the overlay did not answer for come in with what the base
reports. -/
theorem total_balanceOf_merge {overlay : OverlayState} {merged : Address → Prop}
    (wellFormed : overlay.WellFormed merged) (discipline : JournalDiscipline runtime.toRevm)
    {batch : Batch ε} {evm : runtime.Evm}
    (conserves : ConservesValue runtime.toRevm (overlay.layerOver batch.base) batch.ctx.chainId
      batch.txs)
    (reaches : runtime.Reaches (overlay.layerOver batch.base) batch.ctx.chainId batch.txs evm)
    (commitment : Hash) (entry : Address → U256) {accounts : Finset Address}
    (covers : EvmState.addresses (runtime.finalize evm) ⊆ accounts) :
    let next := (overlay.applyEvmState (runtime.finalize evm)).setCommitment commitment
    total (fun address =>
        if address ∈ next.held then next.balanceOf address else entry address) accounts +
        total (EvmState.droppedBalance (runtime.finalize evm))
          (EvmState.addresses (runtime.finalize evm)) =
      total (fun address =>
        if address ∈ overlay.held then overlay.balanceOf address
        else if address ∈ EvmState.addresses (runtime.finalize evm) then
          balanceIn (batch.base.basicRef address)
        else entry address) accounts := by
  intro next
  have unloaded : ∀ address ∈ accounts \ EvmState.addresses (runtime.finalize evm),
      (if address ∈ next.held then next.balanceOf address else entry address).toNat =
        (if address ∈ overlay.held then overlay.balanceOf address
          else if address ∈ EvmState.addresses (runtime.finalize evm) then
            balanceIn (batch.base.basicRef address)
          else entry address).toNat := by
    intro address address_mem
    have outside := (Finset.mem_sdiff.mp address_mem).2
    have absent : (runtime.finalize evm).get? address = none := by
      rwa [EvmState.mem_addresses, Bool.not_eq_true, Option.isSome_eq_false_iff,
        Option.isNone_iff_eq_none] at outside
    have balance : next.balanceOf address = overlay.balanceOf address := by
      rw [OverlayState.balanceOf_merge, absent]
    simp only [next, OverlayState.mem_held_merge, outside, or_false, if_false, balance]
  have loaded := conserves.total_eq discipline reaches (Finset.Subset.refl _)
  rw [total, total] at loaded
  have moved : ∑ address ∈ EvmState.addresses (runtime.finalize evm),
        ((if address ∈ next.held then next.balanceOf address else entry address).toNat +
          (EvmState.droppedBalance (runtime.finalize evm) address).toNat) =
      ∑ address ∈ EvmState.addresses (runtime.finalize evm),
        (if address ∈ overlay.held then overlay.balanceOf address
          else if address ∈ EvmState.addresses (runtime.finalize evm) then
            balanceIn (batch.base.basicRef address)
          else entry address).toNat := by
    calc _ = ∑ address ∈ EvmState.addresses (runtime.finalize evm),
          (currentBalance runtime.toRevm (overlay.layerOver batch.base) evm address).toNat := by
          apply Finset.sum_congr rfl
          intro address address_mem
          have is_held : address ∈ next.held :=
            (overlay.mem_held_merge _ _ address).mpr (Or.inr address_mem)
          rw [if_pos is_held]
          exact balanceOf_add_droppedBalance overlay commitment address_mem
      _ = _ := loaded
      _ = _ := by
          apply Finset.sum_congr rfl
          intro address address_mem
          simp only [OverlayState.balanceIn_layerOver wellFormed, address_mem, if_true]
  rw [Finset.sum_add_distrib] at moved
  rw [total, total, total, ← Finset.sum_sdiff covers, ← Finset.sum_sdiff covers,
    Finset.sum_congr rfl unloaded, add_assoc, moved]

/-- The general form, from any overlay. -/
theorem total_balanceOf_overlayAfter {overlay : OverlayState} {merged : Address → Prop}
    (wellFormed : overlay.WellFormed merged) (discipline : JournalDiscipline runtime.toRevm)
    (batches : List (Batch ε)) (conserves : RunConservesValue runtime overlay batches)
    {accounts : Finset Address}
    (covers : (overlayAfter runtime overlay batches).held ⊆ accounts) :
    total (overlayAfter runtime overlay batches).balanceOf accounts +
        droppedValue runtime overlay batches =
      total (fun address =>
        if address ∈ overlay.held then overlay.balanceOf address
        else entryBalance runtime overlay batches address) accounts := by
  induction batches generalizing overlay merged with
  | nil =>
      rw [droppedValue, Nat.add_zero, total, total]
      apply Finset.sum_congr rfl
      intro address _
      have unheld : address ∉ overlay.held → overlay.balanceOf address = 0 := by
        rw [OverlayState.mem_held, not_or, OverlayState.balanceOf_eq]
        rintro ⟨absent, -⟩
        simp [Option.not_isSome_iff_eq_none.mp absent]
      by_cases is_held : address ∈ overlay.held
      · rw [if_pos is_held, overlayAfter]
      · rw [if_neg is_held, overlayAfter, unheld is_held, entryBalance]
  | cons batch rest ih =>
      rw [RunConservesValue] at conserves
      rw [overlayAfter] at covers ⊢
      cases stepped : batchStep runtime overlay batch with
      | none =>
          rw [stepped] at conserves covers
          have unentered : entryBalance runtime overlay (batch :: rest) =
              entryBalance runtime overlay rest := by
            funext address
            rw [entryBalance, stepped]
            cases batchDiff runtime overlay batch <;> rfl
          have undropped : droppedValue runtime overlay (batch :: rest) =
              droppedValue runtime overlay rest := by
            rw [droppedValue, stepped]
            cases batchDiff runtime overlay batch <;> rfl
          rw [unentered, undropped]
          exact ih wellFormed conserves covers
      | some next =>
          rw [stepped] at conserves covers
          rcases conserves with ⟨here, later⟩
          rcases batchStep_eq_some stepped with ⟨diff, batch_diff, is_next⟩
          have entered : entryBalance runtime overlay (batch :: rest) = fun address =>
              if address ∈ EvmState.addresses diff then balanceIn (batch.base.basicRef address)
              else entryBalance runtime next rest address := by
            funext address
            rw [entryBalance, batch_diff, stepped]
          have dropped : droppedValue runtime overlay (batch :: rest) =
              total diff.droppedBalance (EvmState.addresses diff) +
                droppedValue runtime next rest := by
            rw [droppedValue, batch_diff, stepped]
          rcases batchDiff_eq_some batch_diff with ⟨evm, reaches, rfl⟩
          subst is_next
          have loaded : EvmState.addresses (runtime.finalize evm) ⊆ accounts := by
            intro address address_mem
            apply covers
            apply held_subset_overlayAfter
            exact (overlay.mem_held_merge _ _ address).mpr (Or.inr address_mem)
          have persisted := ih ((wellFormed.applyEvmState _).setCommitment _) later covers
          rw [entered, dropped, Option.getD_some,
            ← total_balanceOf_merge wellFormed discipline here reaches
              (stateCommitment runtime.keccak256 (runtime.finalize evm)) _ loaded,
            ← persisted]
          omega

/-- After any sequence of batches over any bases, the balances which the overlay holds and the value
which was dropped with destroyed accounts sum up to the balances with which the addresses entered
the overlay. -/
theorem supply_eq_entries (runtime : Runtime ε) (discipline : JournalDiscipline runtime.toRevm)
    (batches : List (Batch ε)) (conserves : RunConservesValue runtime OverlayState.new batches) :
    let final := overlayAfter runtime OverlayState.new batches
    total final.balanceOf final.held + droppedValue runtime OverlayState.new batches =
      total (entryBalance runtime OverlayState.new batches) final.held := by
  intro final
  have unheld : ∀ address, address ∉ OverlayState.new.held := by
    simp [OverlayState.mem_held, AddressView.untouched]
  rw [total_balanceOf_overlayAfter OverlayState.wellFormed_new discipline batches conserves
    (Finset.Subset.refl _)]
  simp only [unheld, if_false]
  rfl

end Run

section Transfer

/-- Replacing one balance changes the total by the difference. -/
theorem total_set (balance : Address → U256) {accounts : Finset Address} {address : Address}
    (address_mem : address ∈ accounts) (value : U256) :
    total (fun other => if address = other then value else balance other) accounts +
        (balance address).toNat = total balance accounts + value.toNat := by
  have others : ∑ other ∈ accounts.erase address,
      (if address = other then value else balance other).toNat =
        ∑ other ∈ accounts.erase address, (balance other).toNat := by
    apply Finset.sum_congr rfl
    intro other other_mem
    rw [if_neg (Finset.ne_of_mem_erase other_mem).symm]
  rw [total, total, ← Finset.add_sum_erase _ _ address_mem, others, if_pos rfl,
    ← Finset.add_sum_erase _ (fun other => (balance other).toNat) address_mem]
  omega

namespace TransferEvm

/-- The current balance of an address. -/
def balance (evm : TransferEvm) (address : Address) : U256 := (evm.account address).balance

/-- The credit of the transaction's value does not overflow. -/
def Fits (evm : TransferEvm) (tx : TxEnv) (target : Address) : Prop :=
  ((evm.debit tx).balance target).toNat + tx.value.toNat < 2 ^ 256

theorem balance_debit (evm : TransferEvm) (tx : TxEnv) :
    (evm.debit tx).balance = fun other =>
      if tx.caller = other then evm.balance tx.caller - tx.value else evm.balance other := by
  funext other
  rw [balance, debit, account_setAccount]
  split <;> rfl

theorem balance_credit (evm : TransferEvm) (target : Address) (value : U256) :
    (evm.credit target value).balance = fun other =>
      if target = other then evm.balance target + value else evm.balance other := by
  funext other
  rw [balance, credit, account_setAccount]
  split <;> rfl

/-- A transfer moves value between its accounts. -/
theorem total_transfer {evm : TransferEvm} {tx : TxEnv} {target : Address}
    (funded : tx.value ≤ evm.balance tx.caller) (fits : evm.Fits tx target)
    {accounts : Finset Address} (caller_mem : tx.caller ∈ accounts) (target_mem : target ∈ accounts)
    (fee_mem : 0 ∈ accounts) :
    total (evm.transfer tx target).balance accounts = total evm.balance accounts := by
  have debited := total_set evm.balance caller_mem (evm.balance tx.caller - tx.value)
  rw [← balance_debit, BitVec.toNat_sub_of_le funded] at debited
  have credited := total_set (evm.debit tx).balance target_mem
    ((evm.debit tx).balance target + tx.value)
  rw [← balance_credit, BitVec.toNat_add, Nat.mod_eq_of_lt fits] at credited
  have paid := total_set ((evm.debit tx).credit target tx.value).balance fee_mem
    (((evm.debit tx).credit target tx.value).balance 0 + 0)
  have unchanged : ∀ word : U256, word + 0 = word := fun word => by simp
  rw [← balance_credit, unchanged] at paid
  rw [BitVec.le_def] at funded
  rw [transfer]
  omega

end TransferEvm

theorem journalDiscipline_transferRevm : JournalDiscipline transferRevm where
  fresh _ _ _ := rfl
  kept := by
    intro database chainId txs (evm : TransferEvm) tx (next : TransferEvm) _ stepped
    rcases transferRevm_txStep stepped with ⟨target, -, -, rfl⟩
    intro address address_mem
    rw [EvmState.mem_addresses] at address_mem ⊢
    exact TransferEvm.present_transfer (Or.inl address_mem)

/-- The balances of the journal are those which the small EVM computes with. -/
theorem currentBalance_transferRevm (evm : TransferEvm) :
    currentBalance transferRevm evm.database evm = evm.balance := by
  funext address
  rw [currentBalance, TransferEvm.balance, TransferEvm.account]
  change (match evm.journal.get? address with
    | some account => account.info.balance
    | none => _) = _
  cases evm.journal.get? address with
  | some account => rfl
  | none =>
      cases evm.database.basicRef address with
      | error failure => exact failure.elim
      | ok answer => cases answer <;> rfl

theorem transferRevm_txStep_funded {evm next : TransferEvm} {tx : TxEnv}
    (stepped : transferRevm.txStep evm tx = some next) :
    ∃ target, tx.kind = .call target ∧ tx.value ≤ evm.balance tx.caller ∧
      next = evm.transfer tx target := by
  cases executed : evm.transactOne tx with
  | error report => simp [Revm.txStep, transferRevm, executed] at stepped
  | ok reached =>
      simp only [Revm.txStep, transferRevm, executed, Option.some.injEq] at stepped
      cases kind : tx.kind with
      | create =>
          rw [TransferEvm.transactOne, kind] at executed
          cases executed
      | call target =>
          simp only [TransferEvm.transactOne, kind, bind_eq_ok_iff, ensure_eq_ok_iff] at executed
          rcases executed with ⟨-, -, -, -, -, -, -, -, -, funded, returned⟩
          cases returned
          exact ⟨target, rfl, funded, stepped.symm⟩

/-- A batch of one transfer conserves value if the credit does not overflow. -/
theorem conservesValue_transferRevm {database : DatabaseRef Infallible} {chainId : U64} {tx : TxEnv}
    (fits : ∀ target, tx.kind = .call target →
      TransferEvm.Fits (transferRevm.build database chainId) tx target) :
    ConservesValue transferRevm database chainId [tx] := by
  intro front only back (evm : TransferEvm) (next : TransferEvm) split reaches stepped loaded covers
  cases front with
  | cons first rest => simp at split
  | nil =>
      cases split
      cases reaches
      rcases transferRevm_txStep_funded stepped with ⟨target, kind, funded, rfl⟩
      have present : ∀ address,
          (((transferRevm.build database chainId).transfer tx target).journal.get?
            address).isSome → address ∈ loaded :=
        fun address held => covers ((EvmState.mem_addresses _ _).mpr held)
      have before := currentBalance_transferRevm (transferRevm.build database chainId)
      have after := currentBalance_transferRevm
        ((transferRevm.build database chainId).transfer tx target)
      rw [TransferEvm.database_transfer] at after
      change total (currentBalance transferRevm database _) loaded =
        total (currentBalance transferRevm database _) loaded
      rw [before, after]
      exact TransferEvm.total_transfer funded (fits target kind)
        (present _ (TransferEvm.present_transfer (Or.inr rfl)))
        (present _ (TransferEvm.present_setAccount (TransferEvm.present_setAccount_self _ _ _) _ _))
        (present _ (TransferEvm.present_setAccount_self _ _ _))

/-- A transfer over the first base. -/
def firstBatch : Batch Infallible where
  base := (fundedProvider [(0x11, 100)]).databaseRef
  ctx := testnetContext
  txs := [transferTx 0x11 0x22 30 0]

/-- A batch over another base, with another balance of its caller. -/
def secondBatch : Batch Infallible where
  base := (fundedProvider [(0x11, 999), (0x33, 50)]).databaseRef
  ctx := testnetContext
  txs := [transferTx 0x11 0x33 20 1]

theorem runConservesValue_twoBases :
    RunConservesValue (transferRuntime Keccak.hash) OverlayState.new [firstBatch, secondBatch] := by
  have succeeds : (batchStep (transferRuntime Keccak.hash) OverlayState.new firstBatch).isSome := by
    decide +kernel
  have first_fits : TransferEvm.Fits
      (transferRevm.build (OverlayState.new.layerOver firstBatch.base) testnetContext.chainId)
      (transferTx 0x11 0x22 30 0) 0x22 := by
    unfold TransferEvm.Fits
    decide +kernel
  have second_fits :
      ∀ next ∈ batchStep (transferRuntime Keccak.hash) OverlayState.new firstBatch,
        TransferEvm.Fits
          (transferRevm.build (next.layerOver secondBatch.base) testnetContext.chainId)
          (transferTx 0x11 0x33 20 1) 0x33 := by
    unfold TransferEvm.Fits
    decide +kernel
  rcases Option.isSome_iff_exists.mp succeeds with ⟨next, stepped⟩
  rw [RunConservesValue, stepped]
  refine ⟨conservesValue_transferRevm ?_, ?_⟩
  · rintro target ⟨⟩
    exact first_fits
  · rw [RunConservesValue]
    split
    · refine ⟨conservesValue_transferRevm ?_, trivial⟩
      rintro target ⟨⟩
      exact second_fits next stepped
    · trivial

/-- The 999 of the second base never enter the overlay. -/
theorem supply_eq_entries_twoBases :
    let final :=
      overlayAfter (transferRuntime Keccak.hash) OverlayState.new [firstBatch, secondBatch]
    total final.balanceOf final.held = 150 ∧
      total final.balanceOf final.held +
          droppedValue (transferRuntime Keccak.hash) OverlayState.new [firstBatch, secondBatch] =
        total (entryBalance (transferRuntime Keccak.hash) OverlayState.new
          [firstBatch, secondBatch]) final.held :=
  ⟨by decide +kernel,
    supply_eq_entries (transferRuntime Keccak.hash) journalDiscipline_transferRevm _
      runConservesValue_twoBases⟩

end Transfer

end Zkhood
