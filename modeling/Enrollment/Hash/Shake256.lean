import Enrollment.Octets.Basic

/-!
# SHAKE256

The extendable output function of FIPS 202 over the permutation of twenty-five 64-bit lanes. The
lane with the coordinates `x` and `y` stands at `x + 5 * y`.
-/

namespace Enrollment.Hash.Keccak

/-- The constants that the rounds add to the first lane. -/
def roundConstants : List UInt64 := [
  0x0000000000000001, 0x0000000000008082, 0x800000000000808a, 0x8000000080008000,
  0x000000000000808b, 0x0000000080000001, 0x8000000080008081, 0x8000000000008009,
  0x000000000000008a, 0x0000000000000088, 0x0000000080008009, 0x000000008000000a,
  0x000000008000808b, 0x800000000000008b, 0x8000000000008089, 0x8000000000008003,
  0x8000000000008002, 0x8000000000000080, 0x000000000000800a, 0x800000008000000a,
  0x8000000080008081, 0x8000000000008080, 0x0000000080000001, 0x8000000080008008]

/-- How far each lane is turned. -/
def rotations : List UInt64 := [
  0, 1, 62, 28, 27, 36, 44, 6, 55, 20, 3, 10, 43, 25, 39, 41, 45, 15, 21, 8, 18, 2, 61, 56, 14]

/-- A word turned to the left. -/
def rotateLeft (x n : UInt64) : UInt64 :=
  if n = 0 then x else (x <<< n) ||| (x >>> (64 - n))

/-- The lane at a place. -/
def lane (state : List UInt64) (i : Nat) : UInt64 := (state[i]?).getD 0

/-- One round of the permutation. -/
def round (state : List UInt64) (constant : UInt64) : List UInt64 :=
  let column (x : Nat) : UInt64 :=
    (List.range 5).foldl (fun c y => c ^^^ lane state (x + 5 * y)) 0
  let columns := (List.range 5).map column
  let mixed := (List.range 25).map fun i =>
    let x := i % 5
    lane state i ^^^ lane columns ((x + 4) % 5) ^^^ rotateLeft (lane columns ((x + 1) % 5)) 1
  let turned := List.zipWith rotateLeft mixed rotations
  -- the lane that moves to (x, y) comes from (x + 3y, x)
  let moved := (List.range 25).map fun i =>
    let x := i % 5
    let y := i / 5
    lane turned ((x + 3 * y) % 5 + 5 * x)
  let chosen := (List.range 25).map fun i =>
    let x := i % 5
    let row := i - x
    lane moved i ^^^ (~~~ lane moved (row + (x + 1) % 5) &&& lane moved (row + (x + 2) % 5))
  match chosen with
  | [] => []
  | first :: more => (first ^^^ constant) :: more

/-- The permutation. -/
def permute (state : List UInt64) : List UInt64 := roundConstants.foldl round state

/-- The state with a block of lanes mixed in, permuted. -/
def absorb (state : List UInt64) (block : Octets) : List UInt64 :=
  let lanes := (block.chunks 8).map fun w => UInt64.ofNat (Octets.toNatLittle w)
  permute ((List.range 25).map fun i => lane state i ^^^ lane lanes i)

/-- How many octets a block of SHAKE256 has. -/
def rate : Nat := 136

/-- The message with the domain bits and the padding of SHAKE256. -/
def pad (message : Octets) : Octets :=
  let room := rate - message.length % rate
  if room = 1 then message ++ [0x9f]
  else message ++ 0x1f :: List.replicate (room - 2) 0 ++ [0x80]

/-- The octets of the lanes of a state. -/
def toOctets (state : List UInt64) : Octets :=
  state.flatMap fun w => Octets.ofNatLittle 8 w.toNat

end Keccak

/-- The first `length` octets of SHAKE256; `length` is at most 136. -/
def shake256 (length : Nat) (message : Octets) : Octets :=
  let state := ((Keccak.pad message).chunks Keccak.rate).foldl Keccak.absorb
    (List.replicate 25 0)
  (Keccak.toOctets state).take length

end Enrollment.Hash
