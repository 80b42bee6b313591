/-
  Hosts — requests told by values.

  A caller tells words, addresses, times and numbers of steps, instructions and ticks by
  values of any kind.  Each request reads its value, or says why it cannot be used, and
  does what the machine or its host does for the number that is meant.
-/
import Chip8.Host.Basic

namespace Chip8

/-! ## Requests to a machine -/

namespace Machine

/-- The kind of a number in a computation that is not yet performed. -/
def traced : String := "DynamicJaxprTracer"

/-- Make as many steps as a value tells. -/
def runValue (m : Machine) (n : Value) : Except Error RunResult :=
  match n with
  | .flag b => m.runInt b.toInt
  | .number (.int n) => m.runInt n
  | .number (.real x) => .ok (m.run (Number.stepsBelow x))
  | .null | .text _ => .error (.kind (.order "<" traced n.kindName))
  | n => .error (.kind (.operation "<" traced n.kindName))

/-- The sixteen bits that a value is. -/
def wordOf (v : Value) : Except Error UInt16 :=
  match v with
  | .null => .error (.array .missingValue)
  | v => do return .ofInt (← IntegerType.uint16.pack v)

/-- Perform the word that a value tells, without looking for faults. -/
def executeValue (m : Machine) (w : Value) : Except Error Machine := do
  return m.execute (← wordOf w)

/-- Push the return address that a value tells, without looking for room. -/
def pushValue (m : Machine) (a : Value) : Except Error Machine := do
  return { m with stack := m.stack.push (← wordOf a) }

/-- The fault that performing the word that a value tells would be. -/
def checkValue (m : Machine) (w : Value) : Except Error (Option Fault) := do
  m.checkInt (← w.integer fun k => .operation "&" k.name Kind.integer.name)

/-- Back to the start, with the key the machine was created with or with the random source
    of a seed. -/
def resetValue (m : Machine) (seed : Value) : Except Error Machine :=
  match seed with
  | .null => .ok m.reset
  | seed => do ofSeed (← seed.integer .key)

theorem runValue_int (m : Machine) (n : Int) : m.runValue (.int n) = m.runInt n := rfl

end Machine

/-! ## Requests to a host -/

namespace Host

/-- Run as many instructions as a value tells, and say whether one that draws or clears was
    performed.  A number with a fraction counts as the next whole one. -/
def runValue (h : Host) (count : Value) : Host × Except Error Bool :=
  match count.compared ">" with
  | .error e => (h, .error e)
  | .ok (.int n) => h.runInstructions n
  | .ok (.real x) =>
    let (h, changed) := h.attempts (Number.stepsBelow x)
    (h, .ok changed)

/-- Let the timer ticks pass that a value tells. -/
def tickValue (h : Host) (ticks : Value) : Except Error Host := do
  return h.tickTimers (← ticks.integer .length)

/-- Let the time elapse that a value tells. -/
def advanceValue (h : Host) (elapsed : Value) : Host × Except Error Bool :=
  match elapsed.compared "<" with
  | .error e => (h, .error e)
  | .ok n => h.advance n

theorem runValue_int (h : Host) (n : Int) : h.runValue (.int n) = h.runInstructions n := rfl

end Host

end Chip8
