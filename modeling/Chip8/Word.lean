/-
  CHIP-8 machine — instruction words and their fields.

  An instruction is one 16-bit word.  Its first nibble selects a family; the
  other twelve bits are read as registers `x` and `y`, a nibble `n`, a byte
  `kk` or an address `nnn`, and these readings overlap.  `Fields.ofWord` takes
  a word apart by division, so that a statement about fields is one about
  natural numbers.
-/
namespace Chip8

/-- Four bits: the name of a register, of a key, or a small immediate. -/
abbrev Nibble := Fin 16

/-- A place in the 4096 bytes of memory. -/
abbrev Address := Fin 4096

/-! A numeral stands for a nibble or an address. -/

@[instance] theorem Nibble.neZero : @NeZero Nat .ofOfNat0 16 := ⟨by decide⟩

@[instance] theorem Address.neZero : @NeZero Nat .ofOfNat0 4096 := ⟨by decide⟩

theorem Nibble.lt (x : Nibble) : x.val < 16 := x.isLt

/-- The overlapping readings of one instruction word. -/
structure Fields where
  /-- the first nibble, which selects the instruction family -/
  family : Nibble
  /-- the second nibble, the register `VX` -/
  x : Nibble
  /-- the third nibble, the register `VY` -/
  y : Nibble
  /-- the fourth nibble -/
  n : Nibble
  /-- the last byte -/
  kk : UInt8
  /-- the last twelve bits -/
  nnn : Address
deriving DecidableEq

/-- The fields of a word. -/
def Fields.ofWord (w : UInt16) : Fields where
  family := Fin.ofNat 16 (w.toNat / 4096)
  x := Fin.ofNat 16 (w.toNat / 256)
  y := Fin.ofNat 16 (w.toNat / 16)
  n := Fin.ofNat 16 w.toNat
  kk := UInt8.ofNat w.toNat
  nnn := Fin.ofNat 4096 w.toNat

/-- The fields of an integer of any size and sign: those of its low sixteen
    bits in two's complement. -/
def Fields.ofInt (w : Int) : Fields := .ofWord (.ofInt w)

/-- The word formed by two bytes, the high one first. -/
def wordOfBytes (high low : UInt8) : UInt16 := 256 * high.toUInt16 + low.toUInt16

theorem toNat_wordOfBytes (high low : UInt8) :
    (wordOfBytes high low).toNat = 256 * high.toNat + low.toNat := by
  have := high.toNat_lt
  have := low.toNat_lt
  have : (256 : UInt16).toNat = 256 := rfl
  simp only [wordOfBytes, UInt16.toNat_add, UInt16.toNat_mul, UInt8.toNat_toUInt16, this]
  omega

end Chip8
