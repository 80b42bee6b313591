/-
  CHIP-8 machine — what is done to a machine from outside.

  A `Stimulus` reaches a machine between its steps: a timer tick, the keypad, the
  host's note that it has shown the display.  An `Operation` is a step, a run, a
  stimulus, the loading of a program, or one of the two things a host does about a
  fault, going on after the word or starting the program again.  Operations that
  are refused change nothing.

  * `perform_run`: a run is so many steps;
  * `receive_cases`: what a stimulus does, hence it changes timers, keypad and the note on the
    display only (`receive_eq`);
  * `loadRom_eq`, `boot_eq`: a program that is loaded changes memory only.
-/
import Chip8.Host.Basic
import Chip8.Proofs.Run

namespace Chip8

/-- What reaches a machine between its steps. -/
inductive Stimulus where
  /-- one tick of both timers -/
  | tick
  /-- a snapshot of the keypad -/
  | keypad (s : Value)
  | press (key : ℤ)
  | release (key : ℤ)
  | releaseAll
  /-- the display has been shown -/
  | acknowledge

/-- What is done to a machine. -/
inductive Operation where
  | step
  /-- a run of a number of steps -/
  | run (n : ℤ)
  | stimulus (s : Stimulus)
  /-- a program is loaded, under a limit of the caller's -/
  | load (rom : Rom) (max : Value)
  /-- the word at the program counter is skipped, unless it lies outside memory -/
  | skipWord
  /-- back to the start, without a program -/
  | reset
  /-- a host of some configuration starts its program again -/
  | restart (config : HostConfig) (rom : Rom)

/-- The machine is started anew. -/
def Operation.restarts : Operation → Bool
  | reset | restart .. => true
  | _ => false

namespace Machine

variable (m : Machine)

/-- A machine after a stimulus. -/
def receive : Stimulus → Machine
  | .tick => m.tickTimers
  | .keypad s => (m.setKeypad s).toOption.getD m
  | .press key => (m.pressKey key).toOption.getD m
  | .release key => (m.releaseKey key).toOption.getD m
  | .releaseAll => m.releaseAll
  | .acknowledge => m.acknowledgeDisplay

/-- The machine past the word at the program counter, if that lies within memory. -/
def skipWord : Machine := if m.fetchOutOfBounds then m else m.advancePc

/-- A machine after an operation. -/
def perform : Operation → Machine
  | .step => m.step.machine
  | .run n => ((m.runInt n).toOption.map RunResult.machine).getD m
  | .stimulus s => m.receive s
  | .load rom max => (m.loadRom rom max).toOption.getD m
  | .skipWord => m.skipWord
  | .reset => m.reset
  | .restart config rom => Host.boot config rom

/-- A machine after several operations. -/
def performAll (ops : List Operation) : Machine := ops.foldl perform m

/-- The machine at power-on with a program, which must not be too large. -/
def boot (seed : ℤ) (rom : Rom) (max : Value) : Except Error Machine := do
  (← ofSeed seed).loadRom rom max

/-- A run is so many steps. -/
theorem perform_run {n : ℤ} (hn : IntegerType.int32.holds n) :
    m.perform (.run n) = m.performAll (List.replicate n.toNat .step) := by
  have hafter : ∀ (k : ℕ) (m : Machine), m.after k = m.performAll (List.replicate k .step) := by
    intro k
    induction k with
    | zero => exact fun m => rfl
    | succ k ih => exact fun m => ih m.step.machine
  rw [← hafter, ← run_machine, perform, runInt, if_pos hn]
  rfl

/-! ## What operations leave alone -/

/-- **What a stimulus does**: a tick, the note that the display was shown, or another keypad. -/
theorem receive_cases (s : Stimulus) :
    (s = .tick ∧ m.receive s = m.tickTimers) ∨
      (s = .acknowledge ∧ m.receive s = m.acknowledgeDisplay) ∨
      ∃ keypad, m.receive s = { m with keypad } := by
  cases s with
  | tick => exact Or.inl ⟨rfl, rfl⟩
  | acknowledge => exact Or.inr (Or.inl ⟨rfl, rfl⟩)
  | releaseAll => exact Or.inr (Or.inr ⟨_, rfl⟩)
  | keypad s =>
    refine Or.inr (Or.inr ?_)
    rw [receive, setKeypad]
    cases Keypad.ofSnapshot s with
    | ok keypad => exact ⟨keypad, rfl⟩
    | error e => exact ⟨m.keypad, rfl⟩
  | press key =>
    refine Or.inr (Or.inr ?_)
    rw [receive, pressKey]
    cases Keypad.key key with
    | ok key => exact ⟨_, rfl⟩
    | error e => exact ⟨m.keypad, rfl⟩
  | release key =>
    refine Or.inr (Or.inr ?_)
    rw [receive, releaseKey]
    cases Keypad.key key with
    | ok key => exact ⟨_, rfl⟩
    | error e => exact ⟨m.keypad, rfl⟩

/-- A stimulus changes timers, keypad and the note on the display, and nothing else. -/
theorem receive_eq (s : Stimulus) :
    m.receive s =
      { m with
        delayTimer := (m.receive s).delayTimer
        soundTimer := (m.receive s).soundTimer
        keypad := (m.receive s).keypad
        displayDirty := (m.receive s).displayDirty } := by
  rcases m.receive_cases s with ⟨-, heq⟩ | ⟨-, heq⟩ | ⟨keypad, heq⟩
  · rw [heq]
    rfl
  · rw [heq]
    rfl
  · rw [heq]

/-- Only that the display has been shown changes the note on it. -/
theorem receive_displayDirty {s : Stimulus} (hs : s ≠ .acknowledge) :
    (m.receive s).displayDirty = m.displayDirty := by
  rcases m.receive_cases s with ⟨-, heq⟩ | ⟨rfl, -⟩ | ⟨keypad, heq⟩
  · rw [heq]
    rfl
  · exact absurd rfl hs
  · rw [heq]

theorem receive_stack (s : Stimulus) : (m.receive s).stack = m.stack := by
  rw [receive_eq]

theorem receive_pc (s : Stimulus) : (m.receive s).pc = m.pc := by
  rw [receive_eq]

/-- What a step will do is not seen in what a stimulus changes. -/
theorem next_receive (s : Stimulus) : (m.receive s).next = m.next := by
  rw [receive_eq]
  rfl

theorem withRom_nil : m.withRom [] = m := rfl

/-- A program that is loaded changes memory only. -/
theorem loadRom_eq {rom : Rom} {max : Value} {m' : Machine} (h : m.loadRom rom max = .ok m') :
    m' = m.withRom rom := by
  unfold loadRom at h
  cases hl : Rom.limit max with
  | error e => rw [hl] at h; cases h
  | ok limit =>
    rw [hl] at h
    change (if _ then _ else _) = _ at h
    split_ifs at h
    cases h
    rfl

theorem boot_eq {seed : ℤ} {rom : Rom} {max : Value} {m : Machine}
    (h : boot seed rom max = .ok m) : m = (powerOn (.ofSeed seed)).withRom rom := by
  unfold boot ofSeed at h
  split_ifs at h with hs
  · exact loadRom_eq _ h
  · cases h

end Machine

end Chip8
