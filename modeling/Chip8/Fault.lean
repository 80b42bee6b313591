/-
  CHIP-8 machine — faults.

  A fault is a reason why a step cannot be made.  Faults are found on the
  machine before the instruction runs, so a faulting step can leave it exactly
  as it was.
-/
import Chip8.Execute

namespace Chip8

/-- Why a step cannot be made. -/
inductive Fault where
  /-- the word is no instruction -/
  | unsupportedOpcode
  /-- a call with all slots of the stack in use -/
  | stackOverflow
  /-- a return with no call pending -/
  | stackUnderflow
  /-- a fetch or a transfer outside memory -/
  | memoryOutOfBounds
deriving DecidableEq

namespace Fault

/-- All faults, in the order of their codes. -/
def all : List Fault := [unsupportedOpcode, stackOverflow, stackUnderflow, memoryOutOfBounds]

/-- The number of a fault, from one. -/
def code : Fault → Nat
  | unsupportedOpcode => 1
  | stackOverflow => 2
  | stackUnderflow => 3
  | memoryOutOfBounds => 4

/-- The number of an outcome, zero standing for no fault. -/
def codeOf : Option Fault → Nat
  | none => 0
  | some f => f.code

/-- The outcome with a given number; the outer `none` if there is none. -/
def ofCode? (c : Int) : Option (Option Fault) :=
  match c with
  | 0 => some none
  | 1 => some (some unsupportedOpcode)
  | 2 => some (some stackOverflow)
  | 3 => some (some stackUnderflow)
  | 4 => some (some memoryOutOfBounds)
  | _ => none

theorem ofCode?_codeOf (f : Option Fault) : ofCode? (codeOf f) = some f := by
  rcases f with _ | f
  · rfl
  · cases f <;> rfl

/-- The name under which a fault is counted. -/
def name : Fault → String
  | unsupportedOpcode => "UNSUPPORTED_OPCODE"
  | stackOverflow => "STACK_OVERFLOW"
  | stackUnderflow => "STACK_UNDERFLOW"
  | memoryOutOfBounds => "MEMORY_OUT_OF_BOUNDS"

end Fault

/-- What stands in the way of an instruction: a full or empty stack, or a
    transfer that does not fit into memory. -/
def Instruction.fault? (m : Machine) : Instruction → Option Fault
  | .call _ => if m.stack.isFull then some .stackOverflow else none
  | .ret => if m.stack.isEmpty then some .stackUnderflow else none
  | .draw _ _ n => if Memory.size < m.index.toNat + n then some .memoryOutOfBounds else none
  | .decimal _ => if Memory.size < m.index.toNat + 3 then some .memoryOutOfBounds else none
  | .store x | .load x =>
    if Memory.size < m.index.toNat + x + 1 then some .memoryOutOfBounds else none
  | _ => none

namespace Machine

/-- The instruction written as `w`, or the fault that performing it would be. -/
def check (m : Machine) (w : UInt16) : Except Fault Instruction :=
  match Instruction.decode? w with
  | none => .error .unsupportedOpcode
  | some i =>
    match i.fault? m with
    | some f => .error f
    | none => .ok i

/-- The instruction at the program counter, or the fault of the next step. -/
def next (m : Machine) : Except Fault Instruction :=
  if m.fetchOutOfBounds then .error .memoryOutOfBounds else m.check m.word

end Machine

end Chip8
