import Mathlib.Data.Nat.Basic
import Mathlib.Tactic.Ring

/-!
# Big-endian byte strings

Fixed-width big-endian encodings of natural numbers and of bit vectors as lists
of bytes. The width is an argument of the encoder, so several fields can be
concatenated and cut apart again by their lengths alone.
-/

namespace BigEndian

/-- The `width` big-endian bytes of `value`; higher digits are dropped. -/
def encode : ℕ → ℕ → List UInt8
  | 0, _ => []
  | width + 1, value => UInt8.ofNat (value / 256 ^ width % 256) :: encode width value

/-- The number which a byte string encodes. -/
def decode : List UInt8 → ℕ
  | [] => 0
  | byte :: rest => byte.toNat * 256 ^ rest.length + decode rest

@[simp]
theorem length_encode (width value : ℕ) : (encode width value).length = width := by
  induction width with
  | zero => rfl
  | succ width ih => simp [encode, ih]

theorem decode_lt (bytes : List UInt8) : decode bytes < 256 ^ bytes.length := by
  induction bytes with
  | nil => simp [decode]
  | cons byte rest ih =>
      have byte_le : byte.toNat ≤ 255 := by
        have := byte.toNat_lt
        omega
      calc decode (byte :: rest)
          = byte.toNat * 256 ^ rest.length + decode rest := rfl
        _ < byte.toNat * 256 ^ rest.length + 256 ^ rest.length := by omega
        _ = (byte.toNat + 1) * 256 ^ rest.length := by ring
        _ ≤ 256 * 256 ^ rest.length := Nat.mul_le_mul_right _ (by omega)
        _ = 256 ^ (byte :: rest).length := by rw [List.length_cons, pow_succ, Nat.mul_comm]

/-- Encoding keeps a number modulo the range of its width. -/
theorem decode_encode (width value : ℕ) :
    decode (encode width value) = value % 256 ^ width := by
  induction width with
  | zero => simp [encode, decode, Nat.mod_one]
  | succ width ih =>
      have digit : (UInt8.ofNat (value / 256 ^ width % 256)).toNat =
          value / 256 ^ width % 256 := by
        rw [UInt8.toNat_ofNat']
        omega
      rw [encode, decode, digit, length_encode, ih, pow_succ, Nat.mod_mul]
      ring

theorem decode_encode_of_lt {width value : ℕ} (fits : value < 256 ^ width) :
    decode (encode width value) = value := by
  rw [decode_encode, Nat.mod_eq_of_lt fits]

theorem encode_mod (width value : ℕ) : encode width (value % 256 ^ width) = encode width value := by
  suffices general : ∀ extra,
      encode width (value % 256 ^ (width + extra)) = encode width value by simpa using general 0
  induction width with
  | zero => simp [encode]
  | succ width ih =>
      intro extra
      have digit : value % 256 ^ (width + 1 + extra) / 256 ^ width % 256 =
          value / 256 ^ width % 256 := by
        rw [show width + 1 + extra = width + (1 + extra) by omega, pow_add,
          Nat.mod_mul_right_div_self, Nat.mod_mod_of_dvd]
        exact dvd_pow_self 256 (by omega)
      rw [encode, encode, digit]
      have tail := ih (1 + extra)
      rw [show width + (1 + extra) = width + 1 + extra by omega] at tail
      rw [tail]

/-- Every byte string is an encoding. -/
theorem encode_decode (bytes : List UInt8) : encode bytes.length (decode bytes) = bytes := by
  induction bytes with
  | nil => rfl
  | cons byte rest ih =>
      have rest_lt := decode_lt rest
      have byte_lt := byte.toNat_lt
      have positive : 0 < 256 ^ rest.length := Nat.pow_pos (by decide)
      have digit : (byte.toNat * 256 ^ rest.length + decode rest) / 256 ^ rest.length % 256 =
          byte.toNat := by
        rw [Nat.mul_comm, Nat.mul_add_div positive, Nat.div_eq_of_lt rest_lt]
        omega
      have tail : encode rest.length (byte.toNat * 256 ^ rest.length + decode rest) = rest := by
        rw [← encode_mod, Nat.mul_comm, Nat.mul_add_mod, Nat.mod_eq_of_lt rest_lt, ih]
      rw [List.length_cons, encode, decode, digit, tail, UInt8.ofNat_toNat]

theorem decode_append (front back : List UInt8) :
    decode (front ++ back) = decode front * 256 ^ back.length + decode back := by
  induction front with
  | nil => simp [decode]
  | cons byte rest ih =>
      rw [List.cons_append, decode, decode, ih, List.length_append, pow_add]
      ring

theorem encode_inj {width left right : ℕ} (left_lt : left < 256 ^ width)
    (right_lt : right < 256 ^ width) (same : encode width left = encode width right) :
    left = right := by
  rw [← decode_encode_of_lt left_lt, same, decode_encode_of_lt right_lt]

/-- The leading bytes decide a comparison. -/
theorem decode_append_lt {front front' back back' : List UInt8}
    (leading : decode front < decode front') (aligned : back.length = back'.length) :
    decode (front ++ back) < decode (front' ++ back') := by
  have back_lt := decode_lt back
  rw [decode_append, decode_append, ← aligned]
  calc decode front * 256 ^ back.length + decode back
      < decode front * 256 ^ back.length + 256 ^ back.length := by omega
    _ = (decode front + 1) * 256 ^ back.length := by ring
    _ ≤ decode front' * 256 ^ back.length := Nat.mul_le_mul_right _ leading
    _ ≤ decode front' * 256 ^ back.length + decode back' := Nat.le_add_right _ _

end BigEndian

namespace BitVec

variable {bits : ℕ}

/-- The `width` big-endian bytes of a bit vector. -/
def toBeBytes (width : ℕ) (word : BitVec bits) : List UInt8 :=
  BigEndian.encode width word.toNat

/-- The bit vector which a byte string encodes. -/
def ofBeBytes (bits : ℕ) (bytes : List UInt8) : BitVec bits :=
  BitVec.ofNat bits (BigEndian.decode bytes)

@[simp]
theorem length_toBeBytes (width : ℕ) (word : BitVec bits) :
    (word.toBeBytes width).length = width :=
  BigEndian.length_encode width word.toNat

theorem toNat_lt_of_fits {width : ℕ} (fits : 2 ^ bits ≤ 256 ^ width) (word : BitVec bits) :
    word.toNat < 256 ^ width :=
  Nat.lt_of_lt_of_le word.isLt fits

theorem toBeBytes_inj {width : ℕ} (fits : 2 ^ bits ≤ 256 ^ width) {left right : BitVec bits}
    (same : left.toBeBytes width = right.toBeBytes width) : left = right :=
  BitVec.eq_of_toNat_eq
    (BigEndian.encode_inj (toNat_lt_of_fits fits left) (toNat_lt_of_fits fits right) same)

theorem toNat_ofBeBytes_of_lt {bytes : List UInt8} (in_range : BigEndian.decode bytes < 2 ^ bits) :
    (BitVec.ofBeBytes bits bytes).toNat = BigEndian.decode bytes := by
  rw [ofBeBytes, BitVec.toNat_ofNat, Nat.mod_eq_of_lt in_range]

theorem toNat_ofBeBytes {width : ℕ} (exact : 256 ^ width = 2 ^ bits) {bytes : List UInt8}
    (length_eq : bytes.length = width) :
    (BitVec.ofBeBytes bits bytes).toNat = BigEndian.decode bytes := by
  apply toNat_ofBeBytes_of_lt
  rw [← exact, ← length_eq]
  exact BigEndian.decode_lt bytes

/-- Bytes whose value fits the bit vector are its encoding, with their leading zeros. -/
theorem toBeBytes_ofBeBytes_of_lt {width : ℕ} {bytes : List UInt8}
    (length_eq : bytes.length = width) (in_range : BigEndian.decode bytes < 2 ^ bits) :
    (BitVec.ofBeBytes bits bytes).toBeBytes width = bytes := by
  rw [toBeBytes, toNat_ofBeBytes_of_lt in_range, ← length_eq, BigEndian.encode_decode]

/-- Bytes of the exact width are read and written back. -/
theorem toBeBytes_ofBeBytes {width : ℕ} (exact : 256 ^ width = 2 ^ bits) {bytes : List UInt8}
    (length_eq : bytes.length = width) :
    (BitVec.ofBeBytes bits bytes).toBeBytes width = bytes := by
  apply toBeBytes_ofBeBytes_of_lt length_eq
  rw [← exact, ← length_eq]
  exact BigEndian.decode_lt bytes

theorem decode_toBeBytes {width : ℕ} (fits : 2 ^ bits ≤ 256 ^ width) (word : BitVec bits) :
    BigEndian.decode (word.toBeBytes width) = word.toNat :=
  BigEndian.decode_encode_of_lt (toNat_lt_of_fits fits word)

/-- A bit vector which fits is written and read back. -/
theorem ofBeBytes_toBeBytes {width : ℕ} (fits : 2 ^ bits ≤ 256 ^ width) (word : BitVec bits) :
    BitVec.ofBeBytes bits (word.toBeBytes width) = word := by
  apply BitVec.eq_of_toNat_eq
  have decoded := decode_toBeBytes fits word
  rw [toNat_ofBeBytes_of_lt (decoded.trans_lt word.isLt), decoded]

end BitVec
