/-
  CHIP-8 machine — memory, registers and the built-in font.

  Memory is 4096 bytes.  A read past the end gives the last byte and a write
  past the end is dropped, so both are total; the machine's faults keep a
  checked instruction away from either case.  Programs start at `0x200`.  The
  font, sixteen glyphs of five rows each for the digits `0` to `F`, lies at the
  bottom.
-/
import Chip8.Word

namespace Chip8

/-- The 4096 bytes of memory. -/
abbrev Memory := Vector UInt8 4096

namespace Memory

/-- The number of bytes. -/
def size : Nat := 4096

/-- Where programs are loaded and start. -/
def programStart : Nat := 0x200

/-- All bytes zero. -/
def blank : Memory := Vector.replicate 4096 0

/-- The byte at `a`, or the last byte if `a` lies past the end. -/
def read (m : Memory) (a : Nat) : UInt8 := m[min a 4095]

/-- Set the byte at `a`; nothing happens if `a` lies past the end. -/
def write (m : Memory) (a : Nat) (b : UInt8) : Memory := m.setIfInBounds a b

/-- Write bytes one after another from `a` on, dropping those past the end. -/
def writeBytes (m : Memory) (a : Nat) : List UInt8 → Memory
  | [] => m
  | b :: bs => (m.write a b).writeBytes (a + 1) bs

/-- The big-endian word at `pc`.  The second byte's address wraps to 16 bits. -/
def wordAt (m : Memory) (pc : UInt16) : UInt16 :=
  wordOfBytes (m.read pc.toNat) (m.read (pc + 1).toNat)

theorem read_of_lt (m : Memory) {a : Nat} (h : a < 4096) : m.read a = m[a] := by
  simp only [read]
  congr 1
  omega

theorem read_write (m : Memory) (a i : Nat) (b : UInt8) (hi : i < 4096) :
    (m.write a b).read i = if i = a then b else m.read i := by
  rw [read_of_lt _ hi, read_of_lt _ hi]
  simp only [write, Vector.getElem_setIfInBounds]
  by_cases h : i = a
  · simp [h]
  · simp [h, Ne.symm h]

end Memory

/-- The sixteen registers `V0` to `VF`. -/
abbrev Registers := Vector UInt8 16

namespace Registers

/-- The number of registers. -/
def size : Nat := 16

/-- The flag register `VF`. -/
def flag : Nibble := 0xF

/-- Set the register `x`. -/
def put (v : Registers) (x : Nibble) (b : UInt8) : Registers := v.set x b x.lt

/-- Set the flag register `VF`. -/
def setFlag (v : Registers) (f : Bool) : Registers := v.put flag f.toUInt8

end Registers

/-! ## The font -/

namespace Font

/-- Where the first glyph lies. -/
def start : Nat := 0x000

/-- The rows, and so the bytes, of one glyph. -/
def glyphSize : Nat := 5

/-- The glyphs of `0` to `F`, one line each. -/
def glyphs : List UInt8 :=
  [ 0xF0, 0x90, 0x90, 0x90, 0xF0,
    0x20, 0x60, 0x20, 0x20, 0x70,
    0xF0, 0x10, 0xF0, 0x80, 0xF0,
    0xF0, 0x10, 0xF0, 0x10, 0xF0,
    0x90, 0x90, 0xF0, 0x10, 0x10,
    0xF0, 0x80, 0xF0, 0x10, 0xF0,
    0xF0, 0x80, 0xF0, 0x90, 0xF0,
    0xF0, 0x10, 0x20, 0x40, 0x40,
    0xF0, 0x90, 0xF0, 0x90, 0xF0,
    0xF0, 0x90, 0xF0, 0x10, 0xF0,
    0xF0, 0x90, 0xF0, 0x90, 0x90,
    0xE0, 0x90, 0xE0, 0x90, 0xE0,
    0xF0, 0x80, 0x80, 0x80, 0xF0,
    0xE0, 0x90, 0x90, 0x90, 0xE0,
    0xF0, 0x80, 0xF0, 0x80, 0xF0,
    0xF0, 0x80, 0xF0, 0x80, 0x80 ]

theorem length_glyphs : glyphs.length = 16 * glyphSize := rfl

/-- Memory holding the font and nothing else. -/
def memory : Memory := Memory.blank.writeBytes start glyphs

/-- The address of the glyph for `digit`.  A value above `0xF` points past the
    font. -/
def addressOf (digit : UInt8) : UInt16 := .ofNat (start + glyphSize * digit.toNat)

end Font

end Chip8
