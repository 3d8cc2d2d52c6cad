import Mathlib.Data.List.Forall2
import Mathlib.Data.Option.Basic
import Zkhood.Commitment
import Zkhood.Data.Records

/-!
# What the state commitment determines

The bytes behind a commitment are account and slot records without counts or
tags, so they do not say where one account's slots end and the next account
begins. That information is the layout of a state: the number of slots of each
account, in address order.

With the layout given, the bytes determine the diff. Two different layouts of
the same length are never told apart: `carve` cuts one stream of increasing
words into a state of any layout, and states cut from one stream have the same
bytes.
-/

namespace Zkhood

/-- Two accounts with the same balance, nonce, code hash, slot keys and present values. -/
structure SameChange (left right : Account) : Prop where
  balance : left.info.balance = right.info.balance
  nonce : left.info.nonce = right.info.nonce
  codeHash : left.info.codeHash = right.info.codeHash
  slots : ∀ slot, left.present? slot = right.present? slot

/-- Two states with the same addresses and, at each, the same change. -/
def SameDiff (left right : EvmState) : Prop :=
  ∀ address, Option.Rel SameChange (left.get? address) (right.get? address)

/-- The number of slots of each account, in address order. -/
def layout (state : EvmState) : List ℕ :=
  (sortedAccounts state).map fun entry => entry.2.sortedSlots.length

/-- The number of four-byte words which a layout takes. -/
def encodedWords (layout : List ℕ) : ℕ :=
  (layout.map fun slots => 23 + 16 * slots).sum

/-- The number of bytes which a layout takes. -/
def encodedLength (layout : List ℕ) : ℕ :=
  4 * encodedWords layout

theorem length_accountRecord (entry : Address × Account) :
    (accountRecord entry).length = 92 + 64 * entry.2.sortedSlots.length := by
  rw [accountRecord, List.length_append, length_headerRecord,
    Records.length_flatMap length_slotRecord]

/-- The length of the hashed bytes depends on the layout alone. -/
theorem length_commitmentBytes (state : EvmState) :
    (commitmentBytes state).length = encodedLength (layout state) := by
  rw [commitmentBytes_eq, layout, encodedLength, encodedWords]
  induction sortedAccounts state with
  | nil => rfl
  | cons entry rest ih =>
      rw [List.flatMap_cons, List.length_append, length_accountRecord, ih]
      simp only [List.map_cons, List.sum_cons]
      omega

section Injective

theorem slotRecord_injective : Function.Injective slotRecord := by
  rintro ⟨leftKey, leftValue⟩ ⟨rightKey, rightValue⟩ same
  rcases List.append_inj same (by simp) with ⟨keys, values⟩
  rw [Prod.mk.injEq]
  exact ⟨BitVec.toBeBytes_inj (by norm_num) keys, BitVec.toBeBytes_inj (by norm_num) values⟩

theorem headerRecord_inj {left right : Address} {leftInfo rightInfo : AccountInfo}
    (same : headerRecord left leftInfo = headerRecord right rightInfo) :
    left = right ∧ leftInfo.balance = rightInfo.balance ∧ leftInfo.nonce = rightInfo.nonce ∧
      leftInfo.codeHash = rightInfo.codeHash := by
  rcases List.append_inj same (by simp) with ⟨addresses, same⟩
  rcases List.append_inj same (by simp) with ⟨balances, same⟩
  rcases List.append_inj same (by simp) with ⟨nonces, codeHashes⟩
  exact ⟨BitVec.toBeBytes_inj (by norm_num) addresses, BitVec.toBeBytes_inj (by norm_num) balances,
    BitVec.toBeBytes_inj (by norm_num) nonces, BitVec.toBeBytes_inj (by norm_num) codeHashes⟩

theorem present?_eq_of_sortedSlots_eq {left right : Account}
    (same : left.sortedSlots = right.sortedSlots) (slot : U256) :
    left.present? slot = right.present? slot := by
  apply Option.ext
  intro value
  rw [← mem_sortedSlots, same, mem_sortedSlots]

/-- Records with the same number of slots are the same only for the same change. -/
theorem accountRecord_inj {left right : Address × Account}
    (counted : left.2.sortedSlots.length = right.2.sortedSlots.length)
    (same : accountRecord left = accountRecord right) :
    left.1 = right.1 ∧ SameChange left.2 right.2 := by
  rcases List.append_inj same (by simp) with ⟨headers, slots⟩
  rcases headerRecord_inj headers with ⟨addresses, balance, nonce, codeHash⟩
  have sorted :=
    Records.flatMap_inj_of_length_eq length_slotRecord slotRecord_injective counted slots
  exact ⟨addresses, balance, nonce, codeHash, present?_eq_of_sortedSlots_eq sorted⟩

/-- With the same layout, the concatenated records can be cut apart again. -/
theorem forall₂_of_flatMap_accountRecord_eq {left right : List (Address × Account)}
    (counted : left.map (fun entry => entry.2.sortedSlots.length) =
      right.map fun entry => entry.2.sortedSlots.length)
    (same : left.flatMap accountRecord = right.flatMap accountRecord) :
    List.Forall₂ (fun left right => left.1 = right.1 ∧ SameChange left.2 right.2) left right := by
  induction left generalizing right with
  | nil => simp_all
  | cons entry rest ih =>
      cases right with
      | nil => simp at counted
      | cons other others =>
          rw [List.map_cons, List.map_cons, List.cons.injEq] at counted
          rw [List.flatMap_cons, List.flatMap_cons] at same
          have lengths : (accountRecord entry).length = (accountRecord other).length := by
            rw [length_accountRecord, length_accountRecord, counted.1]
          rcases List.append_inj same lengths with ⟨heads, tails⟩
          exact .cons (accountRecord_inj counted.1 heads) (ih counted.2 tails)

end Injective

theorem sameDiff_of_forall₂ {left right : EvmState}
    (agree : List.Forall₂ (fun left right => left.1 = right.1 ∧ SameChange left.2 right.2)
      (sortedAccounts left) (sortedAccounts right)) : SameDiff left right := by
  intro address
  cases held : left.get? address with
  | some account =>
      rcases List.exists_mem_of_forall₂ agree ((mem_sortedAccounts left).mpr held) with
        ⟨⟨otherAddress, other⟩, other_mem, rfl, change⟩
      rw [(mem_sortedAccounts right).mp other_mem]
      exact .some change
  | none =>
      cases found : right.get? address with
      | none => exact .none
      | some other =>
          rcases List.exists_mem_of_forall₂ agree.flip ((mem_sortedAccounts right).mpr found) with
            ⟨⟨otherAddress, account⟩, account_mem, rfl, -⟩
          rw [(mem_sortedAccounts left).mp account_mem] at held
          cases held

theorem sortedSlots_eq_of_sameChange {left right : Account} (same : SameChange left right) :
    left.sortedSlots = right.sortedSlots := by
  rw [Account.sortedSlots, Account.sortedSlots, IterMap.collect_congr same.slots]

theorem layout_eq_of_rel {related : Account → Account → Prop} {left right : EvmState}
    (agree : ∀ address, Option.Rel related (left.get? address) (right.get? address))
    (lengths : ∀ account other, related account other →
      account.sortedSlots.length = other.sortedSlots.length) : layout left = layout right := by
  have counts : ∀ state : EvmState, layout state =
      (state.collect fun account => account.sortedSlots.length).toList.map Prod.snd := by
    intro state
    rw [IterMap.toList_collect]
    simp [layout, sortedAccounts]
  rw [counts, counts]
  congr 2
  apply IterMap.collect_congr
  exact fun address => (agree address).map_eq lengths

theorem layout_eq_of_sameDiff {left right : EvmState} (same : SameDiff left right) :
    layout left = layout right :=
  layout_eq_of_rel same fun _ _ change => congrArg List.length (sortedSlots_eq_of_sameChange change)

section Carve

/-- A stretch of the stream in which every four-byte word holds its own position. -/
def wordStream (start count : ℕ) : Bytes :=
  (List.range' start count).flatMap (BigEndian.encode 4)

theorem wordStream_add (start front back : ℕ) :
    wordStream start (front + back) =
      wordStream start front ++ wordStream (start + front) back := by
  rw [wordStream, ← List.range'_append, List.flatMap_append, Nat.one_mul]
  rfl

@[simp]
theorem length_wordStream (start count : ℕ) : (wordStream start count).length = 4 * count := by
  induction count generalizing start with
  | zero => rfl
  | succ count ih =>
      rw [Nat.add_comm count 1, wordStream_add, List.length_append, ih]
      simp [wordStream]
      omega

/-- What is cut later from the stream is a greater number. -/
theorem decode_wordStream_lt {start later count : ℕ} (nonempty : 0 < count)
    (increases : start < later) (fits : later < 2 ^ 32) :
    BigEndian.decode (wordStream start count) < BigEndian.decode (wordStream later count) := by
  rcases Nat.exists_eq_add_of_lt nonempty with ⟨rest, rfl⟩
  rw [Nat.zero_add, Nat.add_comm, wordStream_add, wordStream_add]
  apply BigEndian.decode_append_lt _ (by simp)
  have first : ∀ position < 2 ^ 32, BigEndian.decode (wordStream position 1) = position := by
    intro position position_lt
    have decoded : BigEndian.decode (BigEndian.encode 4 position) = position :=
      BigEndian.decode_encode_of_lt (by simpa using position_lt)
    simpa [wordStream] using decoded
  rw [first start (by omega), first later fits]
  exact increases

/-- A field of `count` words, cut from the stream at a position. -/
def field (bits count start : ℕ) : BitVec bits :=
  BitVec.ofBeBytes bits (wordStream start count)

theorem toBeBytes_field (bits count : ℕ) (exact : 256 ^ (4 * count) = 2 ^ bits) (start : ℕ) :
    (field bits count start).toBeBytes (4 * count) = wordStream start count :=
  BitVec.toBeBytes_ofBeBytes exact (length_wordStream start count)

theorem compare_field {bits count : ℕ} (exact : 256 ^ (4 * count) = 2 ^ bits)
    (nonempty : 0 < count) {start later : ℕ} (increases : start < later)
    (fits : later < 2 ^ 32) :
    compare (field bits count start) (field bits count later) = .lt := by
  apply compareOfLessAndEq_eq_lt.mpr
  rw [BitVec.lt_def, field, field, BitVec.toNat_ofBeBytes exact (length_wordStream _ _),
    BitVec.toNat_ofBeBytes exact (length_wordStream _ _)]
  exact decode_wordStream_lt nonempty increases fits

/-- Slots cut from the stream, one after another. -/
def carveSlots (start : ℕ) : ℕ → List (U256 × EvmStorageSlot)
  | 0 => []
  | slots + 1 =>
      (field 256 8 start, ⟨field 256 8 (start + 8)⟩) :: carveSlots (start + 16) slots

/-- An account with its slots, cut from the stream behind its address. -/
def carveAccount (start slots : ℕ) : Account where
  info :=
    { balance := field 256 8 (start + 5)
      nonce := field 64 2 (start + 13)
      codeHash := field 256 8 (start + 15)
      code := none }
  status := { created := false, selfDestructed := false, touched := true }
  storage := IterMap.ofList (carveSlots (start + 23) slots)

/-- The accounts of a layout, cut from the stream. -/
def carveAccounts (start : ℕ) : List ℕ → List (Address × Account)
  | [] => []
  | slots :: rest =>
      (field 160 5 start, carveAccount start slots) ::
        carveAccounts (start + (23 + 16 * slots)) rest

/-- A state of a given layout, cut from the stream of increasing words. -/
def carve (layout : List ℕ) : EvmState :=
  IterMap.ofList (carveAccounts 0 layout)

theorem length_carveSlots (start slots : ℕ) : (carveSlots start slots).length = slots := by
  induction slots generalizing start with
  | zero => rfl
  | succ slots ih => simp [carveSlots, ih]

theorem mem_carveSlots {start slots : ℕ} {entry : U256 × EvmStorageSlot}
    (entry_mem : entry ∈ carveSlots start slots) :
    ∃ position, start ≤ position ∧ position < start + 16 * slots ∧
      entry.1 = field 256 8 position := by
  induction slots generalizing start with
  | zero => simp [carveSlots] at entry_mem
  | succ slots ih =>
      rcases List.mem_cons.mp entry_mem with rfl | later
      · exact ⟨start, by omega, by omega, rfl⟩
      · rcases ih later with ⟨position, lower, upper, key⟩
        exact ⟨position, by omega, by omega, key⟩

theorem pairwise_carveSlots {start slots : ℕ} (fits : start + 16 * slots ≤ 2 ^ 32) :
    (carveSlots start slots).Pairwise (fun left right => compare left.1 right.1 = .lt) := by
  induction slots generalizing start with
  | zero => exact List.Pairwise.nil
  | succ slots ih =>
      refine List.pairwise_cons.mpr ⟨?_, ih (by omega)⟩
      intro entry entry_mem
      rcases mem_carveSlots entry_mem with ⟨position, lower, upper, key⟩
      rw [key]
      exact compare_field (by norm_num) (by omega) (by omega) (by omega)

theorem sortedSlots_carveAccount {start slots : ℕ} (fits : start + 23 + 16 * slots ≤ 2 ^ 32) :
    (carveAccount start slots).sortedSlots =
      (carveSlots (start + 23) slots).map fun entry => (entry.1, entry.2.presentValue) := by
  have increasing := pairwise_carveSlots fits
  have entries := IterMap.entries_ofList (nodup_keys_of_sorted increasing)
  rw [Account.sortedSlots, carveAccount, IterMap.toList_collect_of_sorted, entries]
  rwa [entries]

theorem mem_carveAccounts {start : ℕ} {slots : List ℕ} {entry : Address × Account}
    (entry_mem : entry ∈ carveAccounts start slots) :
    ∃ position, start ≤ position ∧ position < start + encodedWords slots ∧
      entry.1 = field 160 5 position := by
  induction slots generalizing start with
  | nil => simp [carveAccounts] at entry_mem
  | cons count rest ih =>
      have words : encodedWords (count :: rest) = 23 + 16 * count + encodedWords rest := rfl
      rcases List.mem_cons.mp entry_mem with rfl | later
      · exact ⟨start, by omega, by omega, rfl⟩
      · rcases ih later with ⟨position, lower, upper, key⟩
        exact ⟨position, by omega, by omega, key⟩

theorem pairwise_carveAccounts {start : ℕ} {slots : List ℕ}
    (fits : start + encodedWords slots ≤ 2 ^ 32) :
    (carveAccounts start slots).Pairwise (fun left right => compare left.1 right.1 = .lt) := by
  induction slots generalizing start with
  | nil => exact List.Pairwise.nil
  | cons count rest ih =>
      have words : encodedWords (count :: rest) = 23 + 16 * count + encodedWords rest := rfl
      refine List.pairwise_cons.mpr ⟨?_, ih (by omega)⟩
      intro entry entry_mem
      rcases mem_carveAccounts entry_mem with ⟨position, lower, upper, key⟩
      rw [key]
      exact compare_field (by norm_num) (by omega) (by omega) (by omega)

theorem sortedAccounts_carve {slots : List ℕ} (fits : encodedWords slots ≤ 2 ^ 32) :
    sortedAccounts (carve slots) = carveAccounts 0 slots := by
  have increasing : (carveAccounts 0 slots).Pairwise
      (fun left right => compare left.1 right.1 = .lt) :=
    pairwise_carveAccounts (by omega)
  have entries := IterMap.entries_ofList (nodup_keys_of_sorted increasing)
  rw [sortedAccounts, carve, IterMap.toList_collect_of_sorted, entries]
  · simp
  · rwa [entries]

/-- A carved state has the layout it was carved for. -/
theorem layout_carve {slots : List ℕ} (fits : encodedWords slots ≤ 2 ^ 32) :
    layout (carve slots) = slots := by
  rw [layout, sortedAccounts_carve fits]
  suffices general : ∀ start, start + encodedWords slots ≤ 2 ^ 32 →
      (carveAccounts start slots).map (fun entry => entry.2.sortedSlots.length) = slots from
    general 0 (by omega)
  clear fits
  induction slots with
  | nil => exact fun _ _ => rfl
  | cons count rest ih =>
      intro start fits
      have words : encodedWords (count :: rest) = 23 + 16 * count + encodedWords rest := rfl
      rw [carveAccounts, List.map_cons, ih _ (by omega), sortedSlots_carveAccount (by omega),
        List.length_map, length_carveSlots]

theorem flatMap_slotRecord_carveSlots (start slots : ℕ) :
    ((carveSlots start slots).map fun entry => (entry.1, entry.2.presentValue)).flatMap
      slotRecord = wordStream start (16 * slots) := by
  induction slots generalizing start with
  | zero => rfl
  | succ slots ih =>
      have key := toBeBytes_field 256 8 (by norm_num) start
      have value := toBeBytes_field 256 8 (by norm_num) (start + 8)
      rw [carveSlots, List.map_cons, List.flatMap_cons, ih, slotRecord, key, value,
        ← wordStream_add, ← wordStream_add]
      congr 1
      omega

theorem headerRecord_carveAccount (start slots : ℕ) :
    headerRecord (field 160 5 start) (carveAccount start slots).info = wordStream start 23 := by
  have address := toBeBytes_field 160 5 (by norm_num) start
  have balance := toBeBytes_field 256 8 (by norm_num) (start + 5)
  have nonce := toBeBytes_field 64 2 (by norm_num) (start + 13)
  have codeHash := toBeBytes_field 256 8 (by norm_num) (start + 15)
  simp only [headerRecord, carveAccount, address, balance, nonce, codeHash]
  rw [show (23 : ℕ) = 5 + (8 + (2 + 8)) from rfl, wordStream_add, wordStream_add, wordStream_add]

/-- A carved state is encoded to the stream it was cut from. -/
theorem commitmentBytes_carve {slots : List ℕ} (fits : encodedWords slots ≤ 2 ^ 32) :
    commitmentBytes (carve slots) = wordStream 0 (encodedWords slots) := by
  rw [commitmentBytes_eq, sortedAccounts_carve fits]
  suffices general : ∀ start, start + encodedWords slots ≤ 2 ^ 32 →
      (carveAccounts start slots).flatMap accountRecord =
        wordStream start (encodedWords slots) from
    general 0 (by omega)
  clear fits
  induction slots with
  | nil => exact fun _ _ => rfl
  | cons count rest ih =>
      intro start fits
      have words : encodedWords (count :: rest) = 23 + 16 * count + encodedWords rest := rfl
      rw [carveAccounts, List.flatMap_cons, ih _ (by omega), accountRecord,
        headerRecord_carveAccount, sortedSlots_carveAccount (by omega),
        flatMap_slotRecord_carveSlots, words, wordStream_add, wordStream_add]

end Carve

/-- The hash keeps the encodings of two states apart, unless they are equal. -/
def NoCollision (keccak256 : Bytes → Hash) (left right : EvmState) : Prop :=
  keccak256 (commitmentBytes left) = keccak256 (commitmentBytes right) →
    commitmentBytes left = commitmentBytes right

/-- The commitment binds the diff of any two states with these layouts. -/
def BindsDiffs (left right : List ℕ) : Prop :=
  ∀ (keccak256 : Bytes → Hash) (state other : EvmState),
    layout state = left → layout other = right → NoCollision keccak256 state other →
    stateCommitment keccak256 state = stateCommitment keccak256 other → SameDiff state other

/-- States of one layout have the same bytes only if they are the same diff. -/
theorem sameDiff_of_commitmentBytes_eq {left right : EvmState}
    (layouts : layout left = layout right)
    (same : commitmentBytes left = commitmentBytes right) : SameDiff left right := by
  rw [commitmentBytes_eq, commitmentBytes_eq] at same
  exact sameDiff_of_forall₂ (forall₂_of_flatMap_accountRecord_eq layouts same)

/-- States of one layout are bound, and so are states whose encodings differ in length. Of any
other two layouts, up to 16 GiB of encoding, some states are not. -/
theorem bindsDiffs_iff (left right : List ℕ) :
    (left = right ∨ encodedLength left ≠ encodedLength right → BindsDiffs left right) ∧
      (encodedLength left ≤ 2 ^ 34 → BindsDiffs left right →
        left = right ∨ encodedLength left ≠ encodedLength right) := by
  constructor
  · intro apart keccak256 state other state_layout other_layout noCollision commitments
    have bytes := noCollision commitments
    rcases apart with same | lengths
    · exact sameDiff_of_commitmentBytes_eq (by rw [state_layout, other_layout, same]) bytes
    · refine absurd ?_ lengths
      rw [← state_layout, ← other_layout, ← length_commitmentBytes, ← length_commitmentBytes, bytes]
  · intro fits binds
    by_contra ambiguous
    rw [not_or, not_not] at ambiguous
    have left_fits : encodedWords left ≤ 2 ^ 32 := by
      rw [encodedLength] at fits
      omega
    have words : encodedWords left = encodedWords right := by
      have := ambiguous.2
      rw [encodedLength, encodedLength] at this
      omega
    have right_fits : encodedWords right ≤ 2 ^ 32 := words ▸ left_fits
    have bytes : commitmentBytes (carve left) = commitmentBytes (carve right) := by
      rw [commitmentBytes_carve left_fits, commitmentBytes_carve right_fits, words]
    have same := binds (fun _ => 0) (carve left) (carve right) (layout_carve left_fits)
      (layout_carve right_fits) (fun _ => bytes) rfl
    have layouts := layout_eq_of_sameDiff same
    rw [layout_carve left_fits, layout_carve right_fits] at layouts
    exact ambiguous.1 layouts

/-- A touched account without code. -/
def plainAccount (balance : U256) (nonce : U64) (slots : List (U256 × U256)) : Account where
  info := { balance, nonce, codeHash := keccakEmpty, code := none }
  status := { created := false, selfDestructed := false, touched := true }
  storage := IterMap.ofList (slots.map fun slot => (slot.1, ⟨slot.2⟩))

/-- Accounts 1 and 2, where the slot belongs to the second. -/
def slotInSecond : EvmState :=
  IterMap.ofList [(1, plainAccount 0 0 []), (2, plainAccount 7 1 [(5, keccakEmpty)])]

/-- The same bytes, cut so that the slot belongs to the first account. -/
def slotInFirst : EvmState :=
  IterMap.ofList
    [(1, plainAccount 0 0 [(2 <<< 96, (7 <<< 96) ||| (1 <<< 32) ||| 0xc5d24601)]),
      (0x86f7233c927e7db2dcc703c0e500b653ca82273b,
        plainAccount (0x7bfad8045d85a470 <<< 192) 5 [])]

/-- Two different diffs with the same commitment, whatever the hash. -/
theorem stateCommitment_slotInSecond_eq_slotInFirst :
    (∀ keccak256, stateCommitment keccak256 slotInSecond = stateCommitment keccak256 slotInFirst) ∧
      ¬SameDiff slotInSecond slotInFirst := by
  have bytes : commitmentBytes slotInSecond = commitmentBytes slotInFirst := by decide +kernel
  constructor
  · intro keccak256
    rw [stateCommitment, stateCommitment, bytes]
  · intro same
    have second := same 2
    cases second

end Zkhood
