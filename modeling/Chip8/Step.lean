/-
  CHIP-8 machine — steps and runs.

  A step performs the instruction at the program counter, or reports a fault
  and leaves the machine as it was.  A run makes steps until one faults or the
  number asked for is reached; `RunResult.extend` goes on from the result of
  an earlier run.
-/
import Chip8.Error

namespace Chip8

/-- The outcome of one step. -/
structure StepResult where
  machine : Machine
  fault : Option Fault
  /-- the word at the program counter -/
  word : UInt16
  /-- an instruction that draws or clears was performed -/
  displayChanged : Bool

/-- The outcome of a run. -/
structure RunResult where
  machine : Machine
  /-- the fault the run stopped at -/
  fault : Option Fault
  /-- the steps made -/
  steps : Nat
  /-- an instruction that draws or clears was performed -/
  displayChanged : Bool

namespace Machine

/-- Perform the instruction at the program counter. -/
def step (m : Machine) : StepResult :=
  match m.next with
  | .error f => ⟨m, some f, m.word, false⟩
  | .ok i => ⟨m.advancePc.apply i, none, m.word, i.draws⟩

end Machine

namespace RunResult

/-- A run of no steps. -/
def start (m : Machine) : RunResult := ⟨m, none, 0, false⟩

/-- Make up to `n` more steps, stopping at the first fault. -/
def extend (r : RunResult) : Nat → RunResult
  | 0 => r
  | n + 1 =>
    match r.fault with
    | some _ => r
    | none =>
      let s := r.machine.step
      extend
        { machine := s.machine
          fault := s.fault
          steps := if s.fault.isNone then r.steps + 1 else r.steps
          displayChanged := r.displayChanged || s.displayChanged } n

end RunResult

namespace Machine

/-- Make up to `n` steps, stopping at the first fault. -/
def run (m : Machine) (n : Nat) : RunResult := (RunResult.start m).extend n

/-! ## Arguments of any size -/

/-- Make up to `n` steps; none if `n` is not positive.  A number that does not
    fit into 32 bits is refused. -/
def runInt (m : Machine) (n : Int) : Except Error RunResult :=
  if IntegerType.int32.holds n then .ok (m.run n.toNat) else .error (.stepsOverflow n)

/-- Make one step, a fault being an error. -/
def stepOrFail (m : Machine) : Except Error Machine :=
  match m.step.fault with
  | none => .ok m.step.machine
  | some f => .error (.faulted f (.int m.pc.toNat) (.int m.word.toNat))

/-- The fault that performing a word would be, where the word may have more than
    sixteen bits: only its low ones are read, but in family 0 such a word is no
    instruction. -/
def checkInt (m : Machine) (w : Int) : Except Error (Option Fault) :=
  if IntegerType.int32.holds w then
    let low := UInt16.ofInt w
    if Instruction.isUnsupported w then .ok (some .unsupportedOpcode)
    else
      match m.check low with
      | .ok _ => .ok none
      | .error f => .ok (some f)
  else .error (.ofRange w .int32)

end Machine

end Chip8
