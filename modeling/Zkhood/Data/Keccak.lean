import Zkhood.Data.BigEndian

/-!
# Keccak-256

The hash function behind the commitments, as a sponge over five planes of five
lanes of 64 bits.
-/

namespace Keccak

/-- One value for each of five columns. -/
structure Plane (α : Type) where
  a : α
  b : α
  c : α
  d : α
  e : α

namespace Plane

variable {α β γ : Type}

/-- Apply a function to every column. -/
def map (f : α → β) (plane : Plane α) : Plane β :=
  ⟨f plane.a, f plane.b, f plane.c, f plane.d, f plane.e⟩

/-- Combine two planes column by column. -/
def zipWith (f : α → β → γ) (left : Plane α) (right : Plane β) : Plane γ :=
  ⟨f left.a right.a, f left.b right.b, f left.c right.c, f left.d right.d, f left.e right.e⟩

/-- Every column shows the next one. -/
def next (plane : Plane α) : Plane α := ⟨plane.b, plane.c, plane.d, plane.e, plane.a⟩

/-- Every column shows the previous one. -/
def previous (plane : Plane α) : Plane α := ⟨plane.e, plane.a, plane.b, plane.c, plane.d⟩

/-- The first five values of a list, with a default for missing ones. -/
def ofList (default : α) (values : List α) : Plane α :=
  ⟨values.getD 0 default, values.getD 1 default, values.getD 2 default, values.getD 3 default,
    values.getD 4 default⟩

end Plane

/-- One of the 25 words of the state. -/
abbrev Lane := BitVec 64

/-- The state, five planes of five lanes. -/
abbrev Lanes := Plane (Plane Lane)

/-- By how much `rho` rotates each lane. -/
def rotations : Plane (Plane ℕ) :=
  ⟨⟨0, 1, 62, 28, 27⟩, ⟨36, 44, 6, 55, 20⟩, ⟨3, 10, 43, 25, 39⟩, ⟨41, 45, 15, 21, 8⟩,
    ⟨18, 2, 61, 56, 14⟩⟩

/-- The constants which `iota` adds, one a round. -/
def roundConstants : List Lane :=
  [0x0000000000000001, 0x0000000000008082, 0x800000000000808a, 0x8000000080008000,
   0x000000000000808b, 0x0000000080000001, 0x8000000080008081, 0x8000000000008009,
   0x000000000000008a, 0x0000000000000088, 0x0000000080008009, 0x000000008000000a,
   0x000000008000808b, 0x800000000000008b, 0x8000000000008089, 0x8000000000008003,
   0x8000000000008002, 0x8000000000000080, 0x000000000000800a, 0x800000008000000a,
   0x8000000080008081, 0x8000000000008080, 0x0000000080000001, 0x8000000080008008]

/-- Exclusive or, column by column. -/
def xor (left right : Plane Lane) : Plane Lane := left.zipWith (· ^^^ ·) right

/-- Add the parities of two columns to every lane. -/
def theta (lanes : Lanes) : Lanes :=
  let parity := xor lanes.a (xor lanes.b (xor lanes.c (xor lanes.d lanes.e)))
  lanes.map (xor (xor parity.previous (parity.next.map (·.rotateLeft 1))))

/-- Rotate every lane by its own amount. -/
def rho (lanes : Lanes) : Lanes :=
  lanes.zipWith (fun plane places => plane.zipWith (·.rotateLeft ·) places) rotations

/-- Move every lane to its new place. -/
def pi (lanes : Lanes) : Lanes :=
  ⟨⟨lanes.a.a, lanes.b.b, lanes.c.c, lanes.d.d, lanes.e.e⟩,
    ⟨lanes.a.d, lanes.b.e, lanes.c.a, lanes.d.b, lanes.e.c⟩,
    ⟨lanes.a.b, lanes.b.c, lanes.c.d, lanes.d.e, lanes.e.a⟩,
    ⟨lanes.a.e, lanes.b.a, lanes.c.b, lanes.d.c, lanes.e.d⟩,
    ⟨lanes.a.c, lanes.b.d, lanes.c.e, lanes.d.a, lanes.e.b⟩⟩

/-- Combine every lane with the next two of its plane. -/
def chi (lanes : Lanes) : Lanes :=
  lanes.map fun plane =>
    xor plane ((plane.next.map (~~~·)).zipWith (· &&& ·) plane.next.next)

/-- Add a round constant to the first lane. -/
def iota (constant : Lane) (lanes : Lanes) : Lanes :=
  { lanes with a := { lanes.a with a := lanes.a.a ^^^ constant } }

/-- The 24 rounds of the permutation. -/
def permute (lanes : Lanes) : Lanes :=
  roundConstants.foldl (fun lanes constant => iota constant (chi (pi (rho (theta lanes))))) lanes

/-- The little-endian lanes of a byte string. -/
def words : ℕ → List UInt8 → List Lane
  | 0, _ => []
  | count + 1, bytes => BitVec.ofBeBytes 64 (bytes.take 8).reverse :: words count (bytes.drop 8)

/-- A block of 136 bytes as a state with empty capacity. -/
def ofBlock (block : List UInt8) : Lanes :=
  let lanes := words 17 block
  ⟨.ofList 0 lanes, .ofList 0 (lanes.drop 5), .ofList 0 (lanes.drop 10), .ofList 0 (lanes.drop 15),
    .ofList 0 []⟩

/-- The padding of a message of `length` bytes. -/
def pad (length : ℕ) : List UInt8 :=
  let missing := 136 - length % 136
  if missing = 1 then [0x81] else 0x01 :: (List.replicate (missing - 2) 0 ++ [0x80])

/-- Absorb some blocks, one after another. -/
def absorbBlocks (lanes : Lanes) : ℕ → List UInt8 → Lanes
  | 0, _ => lanes
  | blocks + 1, bytes =>
      absorbBlocks (permute (lanes.zipWith xor (ofBlock (bytes.take 136)))) blocks (bytes.drop 136)

/-- The Keccak-256 digest of a message. -/
def hash (bytes : List UInt8) : BitVec 256 :=
  let padded := bytes ++ pad bytes.length
  let lanes := absorbBlocks (ofBlock []) (padded.length / 136) padded
  BitVec.ofBeBytes 256
    ([lanes.a.a, lanes.a.b, lanes.a.c, lanes.a.d].flatMap fun lane => (lane.toBeBytes 8).reverse)

example : hash [] = 0xc5d2460186f7233c927e7db2dcc703c0e500b653ca82273b7bfad8045d85a470 := by
  decide +kernel

end Keccak
