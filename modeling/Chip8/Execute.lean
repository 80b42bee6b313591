/-
  CHIP-8 machine — what each instruction does.

  `Machine.apply` is the effect of an instruction on a machine whose program
  counter already points past it.  It is total and checks nothing: the widths
  of the fields decide what wraps, and memory and stack what is dropped.
-/
import Chip8.Instruction
import Chip8.Machine

namespace Chip8

/-- Whether a skip condition holds. -/
def Condition.holds (m : Machine) : Condition → Bool
  | isByte x kk => m.registers.get x == kk
  | notByte x kk => m.registers.get x != kk
  | isRegister x y => m.registers.get x == m.registers.get y
  | notRegister x y => m.registers.get x != m.registers.get y
  | keyDown x => m.keypad.get (.ofNat 16 (m.registers.get x).toNat)
  | keyUp x => !m.keypad.get (.ofNat 16 (m.registers.get x).toNat)

/-- The three decimal digits of a byte, hundreds first. -/
def decimalDigits (b : UInt8) : List UInt8 := [b / 100, b / 10 % 10, b % 10]

namespace Machine

/-- Set one register. -/
def setRegister (m : Machine) (x : Nibble) (b : UInt8) : Machine :=
  { m with registers := m.registers.put x b }

/-- Move the index register past `V0` to `VX`. -/
def indexAfter (m : Machine) (x : Nibble) : UInt16 := m.index + .ofNat (x.val + 1)

/-- Draw the sprite at the index register: toggle its pixels, and flag whether
    one of them was on. -/
def drawSprite (m : Machine) (x y n : Nibble) : Machine :=
  let mask := Sprite.mask m.memory m.index.toNat ((m.registers.get x).toNat % 64)
    ((m.registers.get y).toNat % 32) n
  { m with
    display := m.display.toggle mask
    displayDirty := true
    registers := m.registers.setFlag (m.display.overlaps mask) }

/-- The effect of an instruction; the program counter already points past it. -/
def apply (m : Machine) : Instruction → Machine
  | .clear => { m with display := .blank, displayDirty := true }
  | .ret => { m with pc := m.stack.pop.1, stack := m.stack.pop.2 }
  | .jump nnn => { m with pc := .ofNat nnn }
  | .call nnn => { m with stack := m.stack.push m.pc, pc := .ofNat nnn }
  | .skip c => if c.holds m then m.advancePc else m
  | .setByte x kk => m.setRegister x kk
  | .addByte x kk => m.setRegister x (m.registers.get x + kk)
  | .alu op x y => { m with registers := m.registers.alu op x y }
  | .setIndex nnn => { m with index := .ofNat nnn }
  | .jumpOffset nnn => { m with pc := .ofNat (nnn + (m.registers.get 0).toNat) }
  | .random x kk => { m.setRegister x (m.rng.byte &&& kk) with rng := m.rng.next }
  | .draw x y n => m.drawSprite x y n
  | .readDelay x => m.setRegister x m.delayTimer
  | .waitKey x =>
    match m.keypad.lowest? with
    | some key => m.setRegister x (.ofNat key)
    | none => { m with pc := m.pc - 2 }
  | .setDelay x => { m with delayTimer := m.registers.get x }
  | .setSound x => { m with soundTimer := m.registers.get x }
  | .addIndex x => { m with index := m.index + (m.registers.get x).toUInt16 }
  | .glyph x => { m with index := Font.addressOf (m.registers.get x) }
  | .decimal x =>
    { m with memory := m.memory.writeBytes m.index.toNat (decimalDigits (m.registers.get x)) }
  | .store x =>
    { m with
      memory := m.memory.writeBytes m.index.toNat (m.registers.toList.take (x + 1))
      index := m.indexAfter x }
  | .load x =>
    { m with
      registers := Vector.ofFn fun i =>
        if i ≤ x then m.memory.read (m.index.toNat + i) else m.registers.get i
      index := m.indexAfter x }

/-- Perform a word without looking for faults, the program counter staying
    where it is unless the instruction moves it. -/
def execute (m : Machine) (w : UInt16) : Machine :=
  match Instruction.decodeLenient? w with
  | some i => m.apply i
  | none => m

end Machine

end Chip8
