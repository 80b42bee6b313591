/-
  CHIP-8 machine — the source of random bytes.

  Random numbers come from the Threefry-2x32 block cipher with twenty rounds:
  enciphering a counter under a key gives 64 bits.  A draw splits the key into
  the key of the next draw and a key for this one, so the bytes depend on the
  seed and on the number of draws before, and on nothing else.
-/
namespace Chip8

/-- Two 32-bit words: a key of the cipher, a counter, or the result of
    enciphering one under the other. -/
structure Key where
  hi : UInt32
  lo : UInt32
deriving DecidableEq

namespace Key

/-- Rotate left by `r`, for `0 < r < 32`. -/
def rotate (x r : UInt32) : UInt32 := x <<< r ||| x >>> (32 - r)

theorem toBitVec_rotate (x r : UInt32) (hpos : 0 < r.toNat) (hlt : r.toNat < 32) :
    (rotate x r).toBitVec = x.toBitVec.rotateLeft r.toNat := by
  simp [rotate, UInt32.toBitVec_shiftRight, UInt32.toBitVec_shiftLeft, BitVec.rotateLeft_def,
    Nat.mod_eq_of_lt hlt]
  congr 2
  omega

/-- One round: add, then rotate and mix. -/
def round (b : Key) (r : UInt32) : Key :=
  let hi := b.hi + b.lo
  ⟨hi, rotate b.lo r ^^^ hi⟩

/-- Four rounds with the given rotations, then the addition of two words of the
    key schedule and the number of the group. -/
def group (b : Key) (rotations : List UInt32) (k₀ k₁ i : UInt32) : Key :=
  let b := rotations.foldl round b
  ⟨b.hi + k₀, b.lo + k₁ + i⟩

/-- Encipher a counter: five groups of four rounds. -/
def encipher (k counter : Key) : Key :=
  let parity := k.hi ^^^ k.lo ^^^ 0x1BD11BDA
  let even := [13, 15, 26, 6]
  let odd := [17, 29, 16, 24]
  let b : Key := ⟨counter.hi + k.hi, counter.lo + k.lo⟩
  let b := b.group even k.lo parity 1
  let b := b.group odd parity k.hi 2
  let b := b.group even k.hi k.lo 3
  let b := b.group odd k.lo parity 4
  b.group even parity k.hi 5

/-! The known answers of Threefry-2x32 with twenty rounds. -/

example : encipher ⟨0, 0⟩ ⟨0, 0⟩ = ⟨0x6B200159, 0x99BA4EFE⟩ := by decide +kernel

example : encipher ⟨0xFFFFFFFF, 0xFFFFFFFF⟩ ⟨0xFFFFFFFF, 0xFFFFFFFF⟩ =
    ⟨0x1CB996FC, 0xBB002BE7⟩ := by decide +kernel

example : encipher ⟨0x13198A2E, 0x03707344⟩ ⟨0x243F6A88, 0x85A308D3⟩ =
    ⟨0xC4923A9C, 0x483DF7A0⟩ := by decide +kernel

/-- The key of a seed, of which it keeps the low 32 bits. -/
def ofSeed (seed : Int) : Key := ⟨0, .ofInt seed⟩

/-- The key left for later draws. -/
def next (k : Key) : Key := k.encipher ⟨0, 0⟩

/-- The byte drawn with this key. -/
def byte (k : Key) : UInt8 :=
  let b := ((k.encipher ⟨0, 1⟩).encipher ⟨0, 1⟩).encipher ⟨0, 0⟩
  (b.hi ^^^ b.lo).toUInt8

end Key

end Chip8
