/-
  CHIP-8 machine — the instruction set.

  `Instruction` has a constructor for each kind of instruction and
  `Instruction.decode?` reads one off a word; a word that is none of the
  documented patterns has no instruction.
-/
import Chip8.Alu

namespace Chip8

/-- What a skip instruction tests. -/
inductive Condition where
  /-- `3XKK`: `VX = KK` -/
  | isByte (x : Nibble) (kk : UInt8)
  /-- `4XKK`: `VX ≠ KK` -/
  | notByte (x : Nibble) (kk : UInt8)
  /-- `5XY0`: `VX = VY` -/
  | isRegister (x y : Nibble)
  /-- `9XY0`: `VX ≠ VY` -/
  | notRegister (x y : Nibble)
  /-- `EX9E`: the key named by the low nibble of `VX` is down -/
  | keyDown (x : Nibble)
  /-- `EXA1`: the key named by the low nibble of `VX` is up -/
  | keyUp (x : Nibble)
deriving DecidableEq

/-- The instructions. -/
inductive Instruction where
  /-- `00E0`: clear the display -/
  | clear
  /-- `00EE`: return from a subroutine -/
  | ret
  /-- `1NNN`: jump to `NNN` -/
  | jump (nnn : Address)
  /-- `2NNN`: call the subroutine at `NNN` -/
  | call (nnn : Address)
  /-- `3XKK`, `4XKK`, `5XY0`, `9XY0`, `EX9E`, `EXA1`: skip the next instruction if
      the condition holds -/
  | skip (c : Condition)
  /-- `6XKK`: `VX := KK` -/
  | setByte (x : Nibble) (kk : UInt8)
  /-- `7XKK`: `VX := VX + KK`, without a flag -/
  | addByte (x : Nibble) (kk : UInt8)
  /-- `8XYN`: arithmetic -/
  | alu (op : AluOp) (x y : Nibble)
  /-- `ANNN`: `I := NNN` -/
  | setIndex (nnn : Address)
  /-- `BNNN`: jump to `NNN + V0` -/
  | jumpOffset (nnn : Address)
  /-- `CXKK`: `VX := random byte AND KK` -/
  | random (x : Nibble) (kk : UInt8)
  /-- `DXYN`: draw the `N` rows at `I` from pixel `(VX, VY)` on -/
  | draw (x y n : Nibble)
  /-- `FX07`: `VX := delay timer` -/
  | readDelay (x : Nibble)
  /-- `FX0A`: wait for a key and put it into `VX` -/
  | waitKey (x : Nibble)
  /-- `FX15`: `delay timer := VX` -/
  | setDelay (x : Nibble)
  /-- `FX18`: `sound timer := VX` -/
  | setSound (x : Nibble)
  /-- `FX1E`: `I := I + VX` -/
  | addIndex (x : Nibble)
  /-- `FX29`: `I :=` the font glyph for `VX` -/
  | glyph (x : Nibble)
  /-- `FX33`: the three decimal digits of `VX` to `I`, `I + 1`, `I + 2` -/
  | decimal (x : Nibble)
  /-- `FX55`: `V0` to `VX` to memory from `I` on, and `I := I + X + 1` -/
  | store (x : Nibble)
  /-- `FX65`: `V0` to `VX` from memory from `I` on, and `I := I + X + 1` -/
  | load (x : Nibble)
deriving DecidableEq

namespace Instruction

/-- The instructions of family `F`, selected by the last byte. -/
def decodeMisc? (x : Nibble) (kk : UInt8) : Option Instruction :=
  match kk.toNat with
  | 0x07 => some (readDelay x)
  | 0x0A => some (waitKey x)
  | 0x15 => some (setDelay x)
  | 0x18 => some (setSound x)
  | 0x1E => some (addIndex x)
  | 0x29 => some (glyph x)
  | 0x33 => some (decimal x)
  | 0x55 => some (store x)
  | 0x65 => some (load x)
  | _ => none

/-- The instruction written as `w`, if `w` is one of the documented patterns. -/
def decode? (w : UInt16) : Option Instruction :=
  let f := Fields.ofWord w
  match f.family.val with
  | 0x0 => if w = 0x00E0 then some clear else if w = 0x00EE then some ret else none
  | 0x1 => some (jump f.nnn)
  | 0x2 => some (call f.nnn)
  | 0x3 => some (skip (.isByte f.x f.kk))
  | 0x4 => some (skip (.notByte f.x f.kk))
  | 0x5 => if f.n = 0 then some (skip (.isRegister f.x f.y)) else none
  | 0x6 => some (setByte f.x f.kk)
  | 0x7 => some (addByte f.x f.kk)
  | 0x8 => (AluOp.ofNibble? f.n).map (alu · f.x f.y)
  | 0x9 => if f.n = 0 then some (skip (.notRegister f.x f.y)) else none
  | 0xA => some (setIndex f.nnn)
  | 0xB => some (jumpOffset f.nnn)
  | 0xC => some (random f.x f.kk)
  | 0xD => some (draw f.x f.y f.n)
  | 0xE =>
    if f.kk = 0x9E then some (skip (.keyDown f.x))
    else if f.kk = 0xA1 then some (skip (.keyUp f.x)) else none
  | _ => decodeMisc? f.x f.kk

/-- The word that a lenient reading takes `w` for: the last nibble of families
    5 and 9 is ignored, and in family `E` any last byte but `A1` is read as
    `9E`. -/
def normalize (w : UInt16) : UInt16 :=
  let f := Fields.ofWord w
  match f.family.val with
  | 0x5 | 0x9 => w - .ofNat f.n.val
  | 0xE => if f.kk = 0xA1 then w else w - f.kk.toUInt16 + 0x9E
  | _ => w

/-- The instruction that the unchecked executor performs for `w`; words
    without one do nothing there. -/
def decodeLenient? (w : UInt16) : Option Instruction := decode? (normalize w)

/-- Whether a word of any size is no instruction.  Only its low sixteen bits are
    read, but in family 0 the whole word counts. -/
def isUnsupported (w : Int) : Bool :=
  let low := UInt16.ofInt w
  (decode? low).isNone || ((Fields.ofWord low).family = 0 && w ≠ low.toNat)

theorem isUnsupported_toNat (w : UInt16) : isUnsupported w.toNat = (decode? w).isNone := by
  have h : UInt16.ofInt w.toNat = w := by
    have := w.toNat_lt
    rw [UInt16.ofInt, Int.emod_eq_of_lt (by omega) (by omega), Int.toNat_natCast,
      UInt16.ofNat_toNat]
  simp [isUnsupported, h]

/-- Whether the instruction changes the display. -/
def draws : Instruction → Bool
  | clear | draw .. => true
  | _ => false

end Instruction

end Chip8
