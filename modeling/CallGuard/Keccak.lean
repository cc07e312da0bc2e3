import CallGuard.Octets

/-! # Keccak-256

The sponge hash over the permutation Keccak-f[1600] with a rate of 136 bytes, the padding that starts with the byte 1,
and a digest of 32 bytes. -/

namespace CallGuard

namespace Keccak

/-- The 25 lanes of the state; the lane of column `x` and row `y` has the index `x + 5 * y`. -/
abbrev State := Vector UInt64 25

/-- The lane of a column and a row, both taken modulo 5. -/
def State.lane (s : State) (x y : Nat) : UInt64 :=
  s.get ⟨x % 5 + 5 * (y % 5), by omega⟩

/-- A state given lane by lane. -/
def State.ofLanes (f : Nat → Nat → UInt64) : State :=
  Vector.ofFn fun i : Fin 25 => f (i.val % 5) (i.val / 5)

/-- A word turned left by `k` bits, `k` below 64. -/
def rotateLeft (w : UInt64) (k : Nat) : UInt64 :=
  (w <<< UInt64.ofNat k) ||| (w >>> UInt64.ofNat ((64 - k) % 64))

/-- How far each lane is turned. -/
def rotations : Vector Nat 25 :=
  #v[0, 1, 62, 28, 27, 36, 44, 6, 55, 20, 3, 10, 43, 25, 39, 41, 45, 15, 21, 8, 18, 2, 61, 56, 14]

/-- The constants of the 24 rounds. -/
def roundConstants : List UInt64 :=
  [0x0000000000000001, 0x0000000000008082, 0x800000000000808A, 0x8000000080008000, 0x000000000000808B,
   0x0000000080000001, 0x8000000080008081, 0x8000000000008009, 0x000000000000008A, 0x0000000000000088,
   0x0000000080008009, 0x000000008000000A, 0x000000008000808B, 0x800000000000008B, 0x8000000000008089,
   0x8000000000008003, 0x8000000000008002, 0x8000000000000080, 0x000000000000800A, 0x800000008000000A,
   0x8000000080008081, 0x8000000000008080, 0x0000000080000001, 0x8000000080008008]

/-- Adds to each lane the parities of the column before it and of the turned column behind it. -/
def mixColumns (s : State) : State :=
  let parities : Vector UInt64 5 := Vector.ofFn fun x : Fin 5 =>
    s.lane x 0 ^^^ s.lane x 1 ^^^ s.lane x 2 ^^^ s.lane x 3 ^^^ s.lane x 4
  let parity (x : Nat) : UInt64 := parities.get ⟨x % 5, by omega⟩
  State.ofLanes fun x y => s.lane x y ^^^ parity (x + 4) ^^^ rotateLeft (parity (x + 1)) 1

/-- Turns every lane and moves the lane of `x`, `y` to column `y` and row `2 * x + 3 * y`. -/
def turnAndMove (s : State) : State :=
  State.ofLanes fun x y =>
    let column := x + 3 * y
    rotateLeft (s.lane column x) (rotations.get ⟨column % 5 + 5 * (x % 5), by omega⟩)

/-- Combines each lane with the two behind it in its row. -/
def combineRows (s : State) : State :=
  State.ofLanes fun x y => s.lane x y ^^^ (~~~ s.lane (x + 1) y &&& s.lane (x + 2) y)

/-- One round. -/
def round (s : State) (constant : UInt64) : State :=
  let t := combineRows (turnAndMove (mixColumns s))
  t.set 0 (t[0] ^^^ constant)

/-- The permutation of the state. -/
def permute (s : State) : State :=
  roundConstants.foldl round s

/-- The number of bytes taken in between two permutations. -/
def rate : Nat := 136

/-- What follows a message of `size` bytes to fill its last block. -/
def padding (size : Nat) : Bytes :=
  let room := rate - size % rate
  if room = 1 then [0x81] else 0x01 :: List.replicate (room - 2) 0 ++ [0x80]

/-- The word that eight bytes write, least significant byte first. -/
def wordOf (bs : Bytes) : UInt64 :=
  UInt64.ofNat (Bytes.toNat bs.reverse)

/-- The eight bytes of a word, least significant first. -/
def bytesOf (w : UInt64) : Bytes :=
  (Bytes.ofNat 8 w.toNat).reverse

/-- Adds a block to the state and permutes. -/
def absorb (s : State) (block : Bytes) : State :=
  permute <| State.ofLanes fun x y =>
    let i := x + 5 * y
    if i < 17 then s.lane x y ^^^ wordOf ((block.drop (8 * i)).take 8) else s.lane x y

/-- The state after a whole message. -/
def absorbAll (message : Bytes) : State :=
  let padded := message ++ padding message.length
  (List.range (padded.length / rate)).foldl (fun s i => absorb s ((padded.drop (rate * i)).take rate))
    (Vector.replicate 25 0)

end Keccak

/-- The Keccak-256 digest of a byte string. -/
def keccak256 (message : Bytes) : Octets 32 :=
  let s := Keccak.absorbAll message
  ⟨Keccak.bytesOf s[0] ++ Keccak.bytesOf s[1] ++ Keccak.bytesOf s[2] ++ Keccak.bytesOf s[3], by
    simp [Keccak.bytesOf]⟩

end CallGuard
