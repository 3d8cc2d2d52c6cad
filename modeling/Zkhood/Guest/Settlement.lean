import Zkhood.Data.Records
import Zkhood.Guest

/-!
# The settlement encoding

The guest commits to the ABI encoding of its public values, and the settlement
layer and the host script decode it. The encoding is one word of 32 bytes per
field; a field narrower than its word is padded with zeros on the left.

Decoding returns every field under its name, and the byte strings which decode
and encode back to themselves are those whose words are in the ranges of their
fields.
-/

namespace Zkhood

namespace PublicValuesStruct

/-- The width in bits of each field, in the order of the struct. -/
def fieldBits : List ℕ := [64, 160, 64, 64, 256, 256, 256, 32]

/-- The ABI decoding of the struct: each field is the low bits of its word. -/
def abiDecode (bytes : Bytes) : Option PublicValuesStruct :=
  if bytes.length < 256 then none
  else some
    { chainId := BitVec.ofBeBytes 64 (Records.cut 32 0 bytes)
      rollupAddress := BitVec.ofBeBytes 160 (Records.cut 32 1 bytes)
      batchNumber := BitVec.ofBeBytes 64 (Records.cut 32 2 bytes)
      teeBatchNonce := BitVec.ofBeBytes 64 (Records.cut 32 3 bytes)
      oldStateCommitment := BitVec.ofBeBytes 256 (Records.cut 32 4 bytes)
      newStateCommitment := BitVec.ofBeBytes 256 (Records.cut 32 5 bytes)
      txCommitment := BitVec.ofBeBytes 256 (Records.cut 32 6 bytes)
      txCount := BitVec.ofBeBytes 32 (Records.cut 32 7 bytes) }

/-- Each word is in the range of its field, so the rest of the word is zero. -/
def FieldsInRange (bytes : Bytes) : Prop :=
  ∀ field ∈ fieldBits.zipIdx, BigEndian.decode (Records.cut 32 field.2 bytes) < 2 ^ field.1

/-- The public values which a struct mirrors. -/
def publicValues (values : PublicValuesStruct) : PublicValues where
  chainId := values.chainId
  rollupAddress := values.rollupAddress
  batchNumber := values.batchNumber
  teeBatchNonce := values.teeBatchNonce
  oldStateCommitment := values.oldStateCommitment
  newStateCommitment := values.newStateCommitment
  txCommitment := values.txCommitment
  txCount := values.txCount

/-- The values of the fields, in the order of the struct. -/
def words (values : PublicValuesStruct) : List ℕ :=
  [values.chainId.toNat, values.rollupAddress.toNat, values.batchNumber.toNat,
    values.teeBatchNonce.toNat, values.oldStateCommitment.toNat, values.newStateCommitment.toNat,
    values.txCommitment.toNat, values.txCount.toNat]

theorem abiEncode_eq_flatMap (values : PublicValuesStruct) :
    values.abiEncode = values.words.flatMap (BigEndian.encode 32) := by
  simp [abiEncode, words, BitVec.toBeBytes, List.append_assoc]

theorem length_abiEncode (values : PublicValuesStruct) : values.abiEncode.length = 256 := by
  rw [abiEncode_eq_flatMap, Records.length_flatMap (BigEndian.length_encode 32)]
  rfl

theorem cut_abiEncode {values : PublicValuesStruct} {index value : ℕ}
    (at_index : values.words[index]? = some value) :
    Records.cut 32 index values.abiEncode = BigEndian.encode 32 value := by
  rw [abiEncode_eq_flatMap]
  exact Records.cut_flatMap (BigEndian.length_encode 32) at_index

theorem word_fits {bits : ℕ} (narrow : bits ≤ 256) : 2 ^ bits ≤ 256 ^ 32 :=
  Nat.pow_le_pow_right (by decide) narrow

/-- A field is read back from the word at its index. -/
theorem ofBeBytes_cut_abiEncode {values : PublicValuesStruct} {bits index : ℕ}
    (narrow : bits ≤ 256) (field : BitVec bits)
    (at_index : values.words[index]? = some field.toNat) :
    BitVec.ofBeBytes bits (Records.cut 32 index values.abiEncode) = field := by
  rw [cut_abiEncode at_index]
  exact BitVec.ofBeBytes_toBeBytes (word_fits narrow) field

theorem abiDecode_abiEncode (values : PublicValuesStruct) :
    abiDecode values.abiEncode = some values := by
  have long : ¬values.abiEncode.length < 256 := by
    rw [length_abiEncode]
    exact Nat.lt_irrefl 256
  rw [abiDecode, if_neg long,
    ofBeBytes_cut_abiEncode (by decide) values.chainId rfl,
    ofBeBytes_cut_abiEncode (by decide) values.rollupAddress rfl,
    ofBeBytes_cut_abiEncode (by decide) values.batchNumber rfl,
    ofBeBytes_cut_abiEncode (by decide) values.teeBatchNonce rfl,
    ofBeBytes_cut_abiEncode (by decide) values.oldStateCommitment rfl,
    ofBeBytes_cut_abiEncode (by decide) values.newStateCommitment rfl,
    ofBeBytes_cut_abiEncode (by decide) values.txCommitment rfl,
    ofBeBytes_cut_abiEncode (by decide) values.txCount rfl]

theorem fieldsInRange_iff {bytes : Bytes} :
    FieldsInRange bytes ↔ fieldBits.zipIdx.Forall fun field =>
      BigEndian.decode (Records.cut 32 field.2 bytes) < 2 ^ field.1 :=
  List.forall_iff_forall_mem.symm

theorem fieldsInRange_abiEncode (values : PublicValuesStruct) :
    FieldsInRange values.abiEncode := by
  have in_range : ∀ {bits index : ℕ} (_ : bits ≤ 256) (field : BitVec bits),
      values.words[index]? = some field.toNat →
      BigEndian.decode (Records.cut 32 index values.abiEncode) < 2 ^ bits := by
    intro bits index narrow field at_index
    rw [cut_abiEncode at_index]
    exact (BitVec.decode_toBeBytes (word_fits narrow) field).trans_lt field.isLt
  rw [fieldsInRange_iff]
  exact ⟨in_range (by decide) values.chainId rfl, in_range (by decide) values.rollupAddress rfl,
    in_range (by decide) values.batchNumber rfl, in_range (by decide) values.teeBatchNonce rfl,
    in_range (by decide) values.oldStateCommitment rfl,
    in_range (by decide) values.newStateCommitment rfl,
    in_range (by decide) values.txCommitment rfl, in_range (by decide) values.txCount rfl⟩

/-- A byte string of in-range words is the encoding of what it decodes to. -/
theorem abiEncode_of_fieldsInRange {bytes : Bytes} (length_eq : bytes.length = 256)
    (in_range : FieldsInRange bytes) :
    ∃ values, abiDecode bytes = some values ∧ values.abiEncode = bytes := by
  have long : ¬bytes.length < 256 := by
    rw [length_eq]
    exact Nat.lt_irrefl 256
  refine ⟨_, if_neg long, ?_⟩
  rcases fieldsInRange_iff.mp in_range with ⟨chainId, rollupAddress, batchNumber, teeBatchNonce,
    oldStateCommitment, newStateCommitment, txCommitment, txCount⟩
  rw [abiEncode_eq_flatMap, words]
  rw [BitVec.toNat_ofBeBytes_of_lt chainId, BitVec.toNat_ofBeBytes_of_lt rollupAddress,
    BitVec.toNat_ofBeBytes_of_lt batchNumber, BitVec.toNat_ofBeBytes_of_lt teeBatchNonce,
    BitVec.toNat_ofBeBytes_of_lt oldStateCommitment,
    BitVec.toNat_ofBeBytes_of_lt newStateCommitment, BitVec.toNat_ofBeBytes_of_lt txCommitment,
    BitVec.toNat_ofBeBytes_of_lt txCount]
  have eight_words : bytes.length = 32 * 8 := length_eq
  have recoded : ∀ index ∈ List.range 8,
      BigEndian.encode 32 (BigEndian.decode (Records.cut 32 index bytes)) =
        Records.cut 32 index bytes := by
    intro index index_mem
    have width := Records.length_cut eight_words (List.mem_range.mp index_mem)
    have restored := BigEndian.encode_decode (Records.cut 32 index bytes)
    rwa [width] at restored
  calc ((List.range 8).map fun index => BigEndian.decode (Records.cut 32 index bytes)).flatMap
        (BigEndian.encode 32)
      = (List.range 8).flatMap (Records.cut 32 · bytes) := by
        rw [List.flatMap_map]
        exact List.flatMap_congr recoded
    _ = bytes := Records.flatMap_cut eight_words

end PublicValuesStruct

open PublicValuesStruct

theorem encodePublicValues_injective : Function.Injective encodePublicValues := by
  intro left right same
  have decoded := congrArg abiDecode same
  rw [encodePublicValues, encodePublicValues, abiDecode_abiEncode, abiDecode_abiEncode] at decoded
  exact congrArg publicValues (Option.some.inj decoded)

/-- The encoding of public values is 256 bytes long and injective. Decoding it returns each field
under its name, and the byte strings of 256 bytes which are the encoding of what they decode to are
those whose words are in the ranges of their fields. -/
theorem encodePublicValues_roundTrip :
    (∀ pv : PublicValues, (encodePublicValues pv).length = 256 ∧
      ∃ values, abiDecode (encodePublicValues pv) = some values ∧
        values.chainId = pv.chainId ∧
        values.rollupAddress = pv.rollupAddress ∧
        values.batchNumber = pv.batchNumber ∧
        values.teeBatchNonce = pv.teeBatchNonce ∧
        values.oldStateCommitment = pv.oldStateCommitment ∧
        values.newStateCommitment = pv.newStateCommitment ∧
        values.txCommitment = pv.txCommitment ∧
        values.txCount = pv.txCount) ∧
    (∀ left right : PublicValues, encodePublicValues left = encodePublicValues right →
      left = right) ∧
    (∀ bytes : Bytes, bytes.length = 256 ∧ FieldsInRange bytes ↔
      ∃ values, abiDecode bytes = some values ∧
        encodePublicValues values.publicValues = bytes) := by
  refine ⟨?_, fun left right same => encodePublicValues_injective same, ?_⟩
  · intro pv
    exact ⟨length_abiEncode _, _, abiDecode_abiEncode _, rfl, rfl, rfl, rfl, rfl, rfl, rfl, rfl⟩
  · intro bytes
    constructor
    · rintro ⟨length_eq, in_range⟩
      exact abiEncode_of_fieldsInRange length_eq in_range
    · rintro ⟨values, -, rfl⟩
      exact ⟨length_abiEncode values, fieldsInRange_abiEncode values⟩

/-- The host decodes from the output of the guest the public values of the batch. -/
theorem publicValues_of_guestMain (runtime : Runtime Infallible) (witness : BatchWitness) :
    ((guestMain runtime witness).bind abiDecode).map publicValues = runBatch runtime witness := by
  rw [guestMain]
  cases runBatch runtime witness with
  | none => rfl
  | some pv =>
      rw [Option.map_some, Option.bind_some, encodePublicValues, abiDecode_abiEncode]
      rfl

end Zkhood
