import Mathlib.Logic.Equiv.Defs
import Zkhood.Data.BigEndian

/-!
# Static ABI encodings

A format gives every value exactly one byte string, and reads back that one
alone. The formats here are built from 32-byte words: tuples of them have a
fixed number of words, and a message is a tag followed by a tuple.
-/

namespace StaticAbi

universe u v

/-- Byte strings which stand for values, one for each. -/
structure Format (α : Type u) where
  encode : α → List UInt8
  decode : List UInt8 → Option α
  decode_eq_some_iff : ∀ bytes value, decode bytes = some value ↔ bytes = encode value

namespace Format

variable {α : Type u} {β : Type v}

@[simp]
theorem decode_encode (format : Format α) (value : α) :
    format.decode (format.encode value) = some value :=
  (format.decode_eq_some_iff _ value).mpr rfl

theorem encode_injective (format : Format α) : Function.Injective format.encode := by
  intro left right same
  have decoded := congrArg format.decode same
  simpa using decoded

/-- The values of another type which have a value of this one. -/
def embed (format : Format α) (value : β → α) (read : α → Option β)
    (read_eq_some_iff : ∀ inner outer, read inner = some outer ↔ inner = value outer) :
    Format β where
  encode outer := format.encode (value outer)
  decode bytes := (format.decode bytes).bind read
  decode_eq_some_iff bytes outer := by
    simp only [Option.bind_eq_some_iff, read_eq_some_iff, format.decode_eq_some_iff]
    exact ⟨fun ⟨inner, encoded, is_value⟩ => is_value ▸ encoded, fun encoded => ⟨_, encoded, rfl⟩⟩

/-- A tag in front of the encoding. -/
def tagged (tag : List UInt8) (format : Format α) : Format α where
  encode value := tag ++ format.encode value
  decode bytes :=
    if bytes.take tag.length = tag then format.decode (bytes.drop tag.length) else none
  decode_eq_some_iff bytes value := by
    rw [Option.ite_none_right_eq_some, format.decode_eq_some_iff]
    constructor
    · rintro ⟨front, back⟩
      have whole := List.take_append_drop tag.length bytes
      rw [front, back] at whole
      exact whole.symm
    · rintro rfl
      exact ⟨List.take_left, List.drop_left⟩

/-- Two formats without a common encoding. -/
def either (left : Format α) (right : Format β)
    (apart : ∀ first second, left.encode first ≠ right.encode second) : Format (α ⊕ β) where
  encode := Sum.elim left.encode right.encode
  decode bytes := ((left.decode bytes).map Sum.inl).or ((right.decode bytes).map Sum.inr)
  decode_eq_some_iff bytes value := by
    cases value with
    | inl first => simp [Option.or_eq_some_iff, left.decode_eq_some_iff]
    | inr second =>
        have undecoded : bytes = right.encode second → left.decode bytes = none := by
          rintro rfl
          rw [Option.eq_none_iff_forall_ne_some]
          intro first decoded
          exact apart first second ((left.decode_eq_some_iff _ _).mp decoded).symm
        simpa [Option.or_eq_some_iff, right.decode_eq_some_iff] using undecoded

/-- Nothing follows the tag. -/
def empty : Format Unit where
  encode _ := []
  decode bytes := if bytes = [] then some () else none
  decode_eq_some_iff bytes value := by simp

end Format

/-- The format of a static type, a fixed number of 32-byte words. -/
structure Codec (α : Type u) extends Format α where
  words : ℕ
  length_encode : ∀ value, (encode value).length = 32 * words

namespace Codec

variable {α : Type u} {β : Type v}

/-- An unsigned integer in one word, whose leading bytes must be zero. -/
def uint (bits : ℕ) (fits : 2 ^ bits ≤ 256 ^ 32) : Codec (BitVec bits) where
  words := 1
  encode := BitVec.toBeBytes 32
  decode bytes :=
    if bytes.length = 32 ∧ BigEndian.decode bytes < 2 ^ bits then
      some (BitVec.ofBeBytes bits bytes)
    else none
  length_encode := BitVec.length_toBeBytes 32
  decode_eq_some_iff bytes value := by
    rw [Option.ite_none_right_eq_some, Option.some.injEq]
    constructor
    · rintro ⟨⟨length_eq, in_range⟩, rfl⟩
      exact (BitVec.toBeBytes_ofBeBytes_of_lt length_eq in_range).symm
    · rintro rfl
      rw [BitVec.decode_toBeBytes fits, BitVec.length_toBeBytes]
      exact ⟨⟨rfl, value.isLt⟩, BitVec.ofBeBytes_toBeBytes fits value⟩

/-- One encoding behind the other. -/
def pair (left : Codec α) (right : Codec β) : Codec (α × β) where
  words := left.words + right.words
  encode value := left.encode value.1 ++ right.encode value.2
  decode bytes :=
    (left.decode (bytes.take (32 * left.words))).bind fun first =>
      (right.decode (bytes.drop (32 * left.words))).map fun second => (first, second)
  length_encode value := by
    rw [List.length_append, left.length_encode, right.length_encode, Nat.mul_add]
  decode_eq_some_iff bytes value := by
    rcases value with ⟨first, second⟩
    simp only [Option.bind_eq_some_iff, Option.map_eq_some_iff, left.decode_eq_some_iff,
      right.decode_eq_some_iff, Prod.mk.injEq]
    constructor
    · rintro ⟨_, front, _, back, rfl, rfl⟩
      rw [← front, ← back, List.take_append_drop]
    · rintro rfl
      have front := left.length_encode first
      exact ⟨first, List.take_left' front, second, List.drop_left' front, rfl, rfl⟩

/-- The values of another type which have a value of this one. -/
def embed (codec : Codec α) (value : β → α) (read : α → Option β)
    (read_eq_some_iff : ∀ inner outer, read inner = some outer ↔ inner = value outer) :
    Codec β where
  toFormat := codec.toFormat.embed value read read_eq_some_iff
  words := codec.words
  length_encode outer := codec.length_encode (value outer)

/-- A structure, as the tuple of its fields. -/
def ofEquiv (codec : Codec α) (fields : β ≃ α) : Codec β :=
  codec.embed fields (fun tuple => some (fields.symm tuple)) fun tuple value => by
    rw [Option.some.injEq, Equiv.symm_apply_eq]

end Codec

end StaticAbi
