/-
  CHIP-8 machine — arithmetic on registers (family 8).

  Each operation computes a result, and five of them a flag, from the values of
  `VX` and `VY` before the instruction.  The result goes to `VX` and the flag to
  `VF`.  When `X` is `F` the later write stays: addition writes the flag last,
  the others the result.
-/
import Chip8.Memory

namespace Chip8

/-- The operations of family 8. -/
inductive AluOp where
  /-- `VX := VY` -/
  | set
  | or
  | and
  | xor
  /-- `VX := VX + VY` with carry -/
  | add
  /-- `VX := VX - VY`, flagged if `VX` is the greater -/
  | sub
  /-- halve `VX`; the flag is the bit shifted out -/
  | shiftRight
  /-- `VX := VY - VX`, flagged if `VY` is the greater -/
  | subReverse
  /-- double `VX`; the flag is the bit shifted out -/
  | shiftLeft
deriving DecidableEq

namespace AluOp

/-- The operation selected by the last nibble of a word. -/
def ofNibble? (n : Nibble) : Option AluOp :=
  match n.val with
  | 0x0 => some set
  | 0x1 => some or
  | 0x2 => some and
  | 0x3 => some xor
  | 0x4 => some add
  | 0x5 => some sub
  | 0x6 => some shiftRight
  | 0x7 => some subReverse
  | 0xE => some shiftLeft
  | _ => none

/-- The value for `VX`, from the values `a` of `VX` and `b` of `VY`. -/
def result (a b : UInt8) : AluOp → UInt8
  | set => b
  | or => a ||| b
  | and => a &&& b
  | xor => a ^^^ b
  | add => a + b
  | sub => a - b
  | shiftRight => a >>> 1
  | subReverse => b - a
  | shiftLeft => a <<< 1

/-- The flag for `VF`, if the operation has one. -/
def flag? (a b : UInt8) : AluOp → Option Bool
  | set | or | and | xor => none
  | add => some (255 < a.toNat + b.toNat)
  | sub => some (b < a)
  | shiftRight => some (a % 2 == 1)
  | subReverse => some (a < b)
  | shiftLeft => some (128 ≤ a)

end AluOp

namespace Registers

/-- Perform an operation on `VX` and `VY`. -/
def alu (v : Registers) (op : AluOp) (x y : Nibble) : Registers :=
  let r := op.result (v.get x) (v.get y)
  match op.flag? (v.get x) (v.get y) with
  | none => v.put x r
  | some f => if op = .add then (v.put x r).setFlag f else (v.setFlag f).put x r

end Registers

end Chip8
