import Zkhood.Data.BigEndian

/-!
# Recursive length prefix encoding

The two kinds of RLP item, byte strings and lists of items, as their encoders
write them. Strings of fewer than 56 bytes carry their length in their first
byte, so they can be concatenated and cut apart again; integers are the strings
of their big-endian bytes without leading zeros.
-/

namespace Rlp

/-- A byte string without its leading zeros. -/
def trim (bytes : List UInt8) : List UInt8 := bytes.dropWhile (· == 0)

/-- The header of an item whose payload has `length` bytes. -/
def header (offset length : ℕ) : List UInt8 :=
  if length < 56 then [UInt8.ofNat (offset + length)]
  else
    let digits := trim (BigEndian.encode 8 length)
    UInt8.ofNat (offset + 55 + digits.length) :: digits

/-- A byte below 0x80 is its own encoding. -/
def encodeString (bytes : List UInt8) : List UInt8 :=
  if bytes.length = 1 ∧ bytes.headD 0 < 0x80 then bytes else header 0x80 bytes.length ++ bytes

/-- The encoding of an integer, without leading zeros. -/
def encodeUint {bits : ℕ} (width : ℕ) (word : BitVec bits) : List UInt8 :=
  encodeString (trim (word.toBeBytes width))

/-- The encoding of a list, whose items are encoded already. -/
def encodeList (items : List (List UInt8)) : List UInt8 :=
  header 0xc0 items.flatten.length ++ items.flatten

theorem decode_trim (bytes : List UInt8) :
    BigEndian.decode (trim bytes) = BigEndian.decode bytes := by
  induction bytes with
  | nil => rfl
  | cons byte rest ih =>
      by_cases zero : byte = 0
      · subst zero
        simpa [trim, BigEndian.decode] using ih
      · simp [trim, zero]

theorem length_trim_le (bytes : List UInt8) : (trim bytes).length ≤ bytes.length :=
  (List.dropWhile_suffix _).length_le

/-- Encoded strings of fewer than 56 bytes can be split off the front of any bytes. -/
theorem encodeString_append_inj {left right rest rest' : List UInt8}
    (left_short : left.length < 56) (right_short : right.length < 56)
    (same : encodeString left ++ rest = encodeString right ++ rest') :
    left = right ∧ rest = rest' := by
  have prefixed : ∀ bytes tail : List UInt8, bytes.length < 56 →
      header 0x80 bytes.length ++ bytes ++ tail =
        UInt8.ofNat (0x80 + bytes.length) :: (bytes ++ tail) := by
    intro bytes tail short
    simp [header, short]
  have bare : ∀ bytes : List UInt8, bytes.length = 1 ∧ bytes.headD 0 < 0x80 →
      ∃ byte : UInt8, bytes = [byte] ∧ byte.toNat < 0x80 := by
    rintro bytes ⟨single, small⟩
    rcases List.length_eq_one_iff.mp single with ⟨byte, rfl⟩
    exact ⟨byte, rfl, UInt8.lt_iff_toNat_lt.mp small⟩
  have lead : ∀ length < 56, (UInt8.ofNat (0x80 + length)).toNat = 0x80 + length := by
    intro length short
    rw [UInt8.toNat_ofNat']
    omega
  simp only [encodeString] at same
  split at same <;> split at same
  · rename_i left_bare right_bare
    exact List.append_inj same (left_bare.1.trans right_bare.1.symm)
  · rename_i left_bare right_prefixed
    rcases bare left left_bare with ⟨byte, rfl, small⟩
    rw [prefixed right rest' right_short, List.singleton_append, List.cons.injEq] at same
    rw [same.1, lead _ right_short] at small
    omega
  · rename_i left_prefixed right_bare
    rcases bare right right_bare with ⟨byte, rfl, small⟩
    rw [prefixed left rest left_short, List.singleton_append, List.cons.injEq] at same
    rw [← same.1, lead _ left_short] at small
    omega
  · rw [prefixed left rest left_short, prefixed right rest' right_short, List.cons.injEq] at same
    have lengths := congrArg UInt8.toNat same.1
    rw [lead _ left_short, lead _ right_short] at lengths
    exact List.append_inj same.2 (by omega)

theorem length_encodeString_le {bytes : List UInt8} (short : bytes.length < 56) :
    bytes.length ≤ (encodeString bytes).length ∧
      (encodeString bytes).length ≤ bytes.length + 1 := by
  rw [encodeString]
  split
  · omega
  · simp only [header, short, if_true, List.length_append, List.length_singleton]
    omega

theorem length_trim_toBeBytes_le {bits : ℕ} (width : ℕ) (word : BitVec bits) :
    (trim (word.toBeBytes width)).length ≤ width := by
  have bound := length_trim_le (word.toBeBytes width)
  rwa [BitVec.length_toBeBytes] at bound

/-- An encoded integer ends where it ends, whatever follows. -/
theorem encodeUint_append_inj {bits width : ℕ} (exact : 256 ^ width = 2 ^ bits)
    (short : width < 56) {left right : BitVec bits} {rest rest' : List UInt8}
    (same : encodeUint width left ++ rest = encodeUint width right ++ rest') :
    left = right ∧ rest = rest' := by
  have left_short := length_trim_toBeBytes_le width left
  have right_short := length_trim_toBeBytes_le width right
  rcases encodeString_append_inj (by omega) (by omega) same with ⟨trimmed, tails⟩
  refine ⟨?_, tails⟩
  have decoded := congrArg BigEndian.decode trimmed
  rw [decode_trim, decode_trim] at decoded
  rw [← BitVec.ofBeBytes_toBeBytes exact.ge left, ← BitVec.ofBeBytes_toBeBytes exact.ge right,
    BitVec.ofBeBytes, BitVec.ofBeBytes, decoded]

theorem encodeUint_inj {bits width : ℕ} (exact : 256 ^ width = 2 ^ bits) (short : width < 56)
    {left right : BitVec bits} (same : encodeUint width left = encodeUint width right) :
    left = right := by
  have extended : encodeUint width left ++ [] = encodeUint width right ++ [] := by rw [same]
  exact (encodeUint_append_inj exact short extended).1

theorem length_header {offset length : ℕ} (long : 56 ≤ length) (fits : length < 256) :
    (header offset length).length = 2 := by
  have digits : trim (BigEndian.encode 8 length) = [UInt8.ofNat length] := by
    have nonzero : UInt8.ofNat length ≠ 0 := by
      intro zero
      have := congrArg UInt8.toNat zero
      rw [UInt8.toNat_ofNat', UInt8.toNat_zero] at this
      omega
    have high : ∀ power, 1 ≤ power → length / 256 ^ power = 0 := by
      intro power positive
      apply Nat.div_eq_of_lt
      calc length < 256 ^ 1 := by simpa using fits
        _ ≤ 256 ^ power := Nat.pow_le_pow_right (by omega) positive
    simp (disch := omega) only [BigEndian.encode, high, pow_zero, Nat.div_one,
      Nat.mod_eq_of_lt fits]
    simp [trim, nonzero]
  rw [header, if_neg (by omega), digits]
  rfl

/-- Encoded lists with payloads of 56 to 255 bytes have the same payload if they are equal. -/
theorem encodeList_inj {left right : List (List UInt8)}
    (left_long : 56 ≤ left.flatten.length) (left_fits : left.flatten.length < 256)
    (right_long : 56 ≤ right.flatten.length) (right_fits : right.flatten.length < 256)
    (same : encodeList left = encodeList right) : left.flatten = right.flatten := by
  refine (List.append_inj same ?_).2
  rw [length_header left_long left_fits, length_header right_long right_fits]

end Rlp
