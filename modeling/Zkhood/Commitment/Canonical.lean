import Zkhood.Commitment.Layout

/-!
# The commitment is canonical

The bytes behind a commitment do not depend on the order in which REVM's hash
maps iterate. They list every account once, by increasing address, and after
each account every one of its slots once, by increasing key.
-/

namespace Zkhood

theorem pairwise_toList_lt {bits : ℕ} {V : Type} (sorted : BTreeMap (BitVec bits) V) :
    sorted.toList.Pairwise fun left right => left.1 < right.1 := by
  apply (Std.ExtTreeMap.ordered_keys_toList (t := sorted)).imp
  intro left right increasing
  exact compareOfLessAndEq_eq_lt.mp increasing

theorem perm_sortedSlots (account : Account) :
    account.sortedSlots.Perm
      (account.storage.entries.map fun entry => (entry.1, entry.2.presentValue)) :=
  IterMap.perm_toList_collect EvmStorageSlot.presentValue account.storage

theorem perm_sortedAccounts (state : EvmState) : (sortedAccounts state).Perm state.entries := by
  have perm := IterMap.perm_toList_collect id state
  rw [sortedAccounts]
  simpa only [id_eq, Prod.mk.eta, List.map_id'] using perm

/-- States with the same diff are encoded to the same bytes. -/
theorem SameDiff.commitmentBytes_eq {left right : EvmState} (same : SameDiff left right) :
    commitmentBytes left = commitmentBytes right := by
  have records : ∀ state : EvmState, commitmentBytes state =
      (state.collect fun account address => accountRecord (address, account)).toList.flatMap
        fun entry => entry.2 entry.1 := by
    intro state
    rw [Zkhood.commitmentBytes_eq, IterMap.toList_collect, List.flatMap_map]
    rfl
  rw [records, records]
  congr 2
  apply IterMap.collect_congr
  refine fun address => (same address).map_eq fun account other change => ?_
  have slots := sortedSlots_eq_of_sameChange change
  funext address
  simp only [accountRecord, headerRecord, slots, change.balance, change.nonce, change.codeHash]

/-- The iteration order is no difference between two states. -/
theorem EvmState.Reordered.sameDiff {left right : EvmState} (reordered : left.Reordered right) :
    SameDiff left right :=
  fun address => (IterMap.Reordered.get?_rel reordered address).mono fun account other same =>
    { balance := by rw [same.info]
      nonce := by rw [same.info]
      codeHash := by rw [same.info]
      slots := same.present?_eq }

/-- The length of the hashed bytes, counted in the state's own order. -/
theorem length_commitmentBytes_eq_sum (state : EvmState) :
    (commitmentBytes state).length = 92 * state.entries.length +
      64 * (state.entries.map fun entry => entry.2.storage.entries.length).sum := by
  have slots : ∀ account : Account, account.sortedSlots.length = account.storage.entries.length :=
    fun account => by rw [(perm_sortedSlots account).length_eq, List.length_map]
  have encoded : ∀ entries : List (Address × Account),
      (entries.flatMap accountRecord).length = 92 * entries.length +
        64 * (entries.map fun entry => entry.2.storage.entries.length).sum := by
    intro entries
    induction entries with
    | nil => rfl
    | cons entry rest ih =>
        rw [List.flatMap_cons, List.length_append, length_accountRecord, ih, slots,
          List.length_cons, List.map_cons, List.sum_cons]
        omega
  have perm := perm_sortedAccounts state
  rw [commitmentBytes_eq, encoded, perm.length_eq, (perm.map _).sum_nat]

/-- The hashed bytes are the same for every order of iteration. They are the records of all
accounts in strictly increasing address order, each followed by the records of all its slots in
strictly increasing key order. -/
theorem commitmentBytes_canonical (state : EvmState) :
    (∀ other : EvmState, state.Reordered other → commitmentBytes other = commitmentBytes state) ∧
    ((sortedAccounts state).Perm state.entries ∧
      (sortedAccounts state).Pairwise fun left right => left.1 < right.1) ∧
    (∀ entry ∈ state.entries,
      entry.2.sortedSlots.Perm
        (entry.2.storage.entries.map fun slot => (slot.1, slot.2.presentValue)) ∧
      entry.2.sortedSlots.Pairwise fun left right => left.1 < right.1) ∧
    commitmentBytes state = ((sortedAccounts state).flatMap fun entry =>
      headerRecord entry.1 entry.2.info ++ entry.2.sortedSlots.flatMap slotRecord) ∧
    (commitmentBytes state).length = 92 * state.entries.length +
      64 * (state.entries.map fun entry => entry.2.storage.entries.length).sum := by
  refine ⟨?_, ⟨perm_sortedAccounts state, pairwise_toList_lt _⟩, ?_, commitmentBytes_eq state,
    length_commitmentBytes_eq_sum state⟩
  · exact fun other reordered => reordered.sameDiff.commitmentBytes_eq.symm
  · exact fun entry _ => ⟨perm_sortedSlots entry.2, pairwise_toList_lt _⟩

end Zkhood
