/-
  Hosts — running a machine in time.

  A host owns a machine and decides how often to run it: instructions at one
  rate, timers at another, each on its own clock.  It applies the fault policy,
  counts what was done and logs what happened.  Operations that can fail return
  the host with whatever they changed before failing.
-/
import Chip8.Clock
import Chip8.Host.Config
import Chip8.KeyMap
import Chip8.Logger
import Chip8.Step

namespace Chip8

/-- A machine and what is needed to run it in time. -/
structure Host where
  config : HostConfig
  rom : Rom
  machine : Machine
  instructionClock : Clock Number
  timerClock : Clock Number
  /-- instructions performed so far -/
  instructionCount : Nat
  /-- frames finished so far -/
  frameCount : Nat
  /-- a fault has stopped the machine until the next reset -/
  halted : Bool
  /-- the last fault met since the last reset -/
  lastFault : Option Fault
  logger : Logger

namespace Host

/-- The machine at power-on with the program loaded. -/
def boot (config : HostConfig) (rom : Rom) : Machine :=
  (Machine.powerOn (.ofSeed config.seed)).withRom rom

/-- Start the program again from power-on.  The counts go on. -/
def reset (h : Host) : Host :=
  { h with
    machine := boot h.config h.rom
    instructionClock := h.instructionClock.reset
    timerClock := h.timerClock.reset
    halted := false
    lastFault := none
    logger := h.logger.logReset h.config.given.seed }

/-- A host for a program, unless the seed or the program is too large. -/
def create (config : HostConfig) (rom : Rom) (logger : Logger) (name : Value) :
    Except Error Host := do
  let machine ← (← Machine.ofSeed config.seed).loadRom rom config.given.maxRomSize
  let h : Host :=
    { config, rom, machine
      instructionClock := .start config.instructionFrequency
      timerClock := .start config.timerFrequency
      instructionCount := 0
      frameCount := 0
      halted := false
      lastFault := none
      logger }
  let h := h.reset
  .ok { h with logger := h.logger.logRomLoaded name (.int rom.length) }

/-- Supply the keypad for the instructions that follow. -/
def setKeys (h : Host) (s : Value) : Except Error Host := do
  .ok { h with machine := ← h.machine.setKeypad s }

/-- The word at the program counter, zero if it does not lie within memory. -/
def currentWord (h : Host) : UInt16 := if h.machine.fetchOutOfBounds then 0 else h.machine.word

/-- What is done about a fault: skipping cannot help a program counter that has
    left memory. -/
def action (h : Host) : FaultPolicy :=
  match h.config.policy with
  | .skip => if h.machine.fetchOutOfBounds then .halt else .skip
  | p => p

/-- Log a fault and apply the policy. -/
def handleFault (h : Host) (f : Fault) : Host :=
  let logged :=
    { h with logger := h.logger.logFault f h.machine.pc.toNat h.currentWord.toNat h.action.name }
  let h :=
    match h.action with
    | .halt => { logged with halted := true }
    | .skip => { logged with machine := logged.machine.advancePc }
    | .reset => logged.reset
  { h with lastFault := some f }

/-- Take over the result of a run. -/
def afterRun (h : Host) (r : RunResult) : Host :=
  { h with machine := r.machine, instructionCount := h.instructionCount + r.steps }

/-- Make up to `n` attempts at an instruction, stopping when halted: the host
    afterwards, and whether an instruction that draws or clears was performed.
    A fault takes up one attempt. -/
def attempts (h : Host) (n : Nat) : Host × Bool :=
  if _hn : n = 0 ∨ h.halted then (h, false)
  else
    let r := h.machine.run n
    match r.fault with
    | none => (h.afterRun r, r.displayChanged)
    | some f =>
      let (h, changed) := ((h.afterRun r).handleFault f).attempts (n - r.steps - 1)
      (h, r.displayChanged || changed)
termination_by n
decreasing_by omega

/-- Run up to a number of instructions and say whether one that draws or clears
    was performed.  A number that does not fit into 32 bits is refused, unless
    the host is halted. -/
def runInstructions (h : Host) (count : Int) : Host × Except Error Bool :=
  if !h.halted && 0x80000000 ≤ count then (h, .error (.stepsOverflow count))
  else
    let (h, changed) := h.attempts count.toNat
    (h, .ok changed)

/-- Let a number of timer ticks pass. -/
def tickTimers (h : Host) (ticks : Int) : Host :=
  { h with machine := h.machine.tickTimersN ticks.toNat }

/-- Count frames and let their timer ticks pass, unless halted. -/
def finishFrames (h : Host) (frames : Int) : Host :=
  if h.halted then h
  else { h.tickTimers frames with frameCount := h.frameCount + frames.toNat }

/-- Run one frame: its instructions, then one timer tick. -/
def runFrame (h : Host) : Host × Except Error Bool :=
  match h.runInstructions h.config.instructionsPerFrame with
  | (h, .ok changed) => (h.finishFrames 1, .ok changed)
  | (h, .error e) => (h, .error e)

/-- Let time elapse on both clocks and run what is due. -/
def advance (h : Host) (elapsed : Number) : Host × Except Error Bool :=
  let (clock, instructions) := h.instructionClock.advance elapsed
  let h := { h with instructionClock := clock }
  match instructions with
  | .error e => (h, .error e)
  | .ok instructions =>
    let (clock, ticks) := h.timerClock.advance elapsed
    let h := { h with timerClock := clock }
    match ticks with
    | .error e => (h, .error e)
    | .ok ticks =>
      match h.runInstructions instructions with
      | (h, .ok changed) => (h.finishFrames ticks, .ok changed)
      | (h, .error e) => (h, .error e)

/-- Note that the display has been shown. -/
def acknowledgeFrame (h : Host) : Host := { h with machine := h.machine.acknowledgeDisplay }

end Host

end Chip8
