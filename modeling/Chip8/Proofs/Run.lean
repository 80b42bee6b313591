/-
  CHIP-8 machine — runs of several steps.

  A run collects the steps made and whether one of them drew.  `extend_eq` frees
  it from what was collected before, so that a run is a step followed by a shorter
  run (`run_succ_of_ok`, `run_succ_of_fault`) and its machine is that of its steps
  made one by one (`run_machine`).
-/
import Chip8.Proofs.Step

namespace Chip8

namespace RunResult

/-- A run and another one that goes on from it. -/
def append (r s : RunResult) : RunResult where
  machine := s.machine
  fault := s.fault
  steps := r.steps + s.steps
  displayChanged := r.displayChanged || s.displayChanged

/-- One step as a run. -/
def ofStep (s : StepResult) : RunResult where
  machine := s.machine
  fault := s.fault
  steps := if s.fault.isNone then 1 else 0
  displayChanged := s.displayChanged

theorem start_append {r : RunResult} (m : Machine) : (start m).append r = r := by
  simp [start, append]

theorem append_start {r : RunResult} (h : r.fault = none) : r.append (start r.machine) = r := by
  simp [start, append, ← h]

theorem append_assoc (r s t : RunResult) : (r.append s).append t = r.append (s.append t) := by
  simp [append, Nat.add_assoc, Bool.or_assoc]

/-- A run goes no further than a fault. -/
theorem extend_of_fault {r : RunResult} {f : Fault} (h : r.fault = some f) (n : ℕ) :
    r.extend n = r := by
  cases n with
  | zero => rfl
  | succ n => simp only [extend, h]

theorem extend_succ {r : RunResult} (h : r.fault = none) (n : ℕ) :
    r.extend (n + 1) = (r.append (ofStep r.machine.step)).extend n := by
  rw [extend]
  simp only [h]
  congr 1
  simp only [append, ofStep]
  cases r.machine.step.fault <;> rfl

/-- **Going on from a run** adds a run from its machine to it. -/
theorem extend_eq {r : RunResult} (h : r.fault = none) (n : ℕ) :
    r.extend n = r.append (r.machine.run n) := by
  induction n generalizing r with
  | zero => exact (append_start h).symm
  | succ n ih =>
    rw [extend_succ h, Machine.run, extend_succ rfl, start_append]
    cases hs : r.machine.step.fault with
    | none => rw [ih hs, ih hs, append_assoc]; rfl
    | some f => rw [extend_of_fault hs, extend_of_fault hs]; rfl

end RunResult

namespace Machine

variable {m : Machine} {f : Fault}

theorem run_succ_of_ok (h : m.step.fault = none) (n : ℕ) :
    m.run (n + 1) = (RunResult.ofStep m.step).append (m.step.machine.run n) := by
  rw [run, RunResult.extend_succ rfl, RunResult.start_append]
  exact RunResult.extend_eq h n

theorem run_succ_of_fault (h : m.step.fault = some f) (n : ℕ) :
    m.run (n + 1) = ⟨m, some f, 0, false⟩ := by
  rw [run, RunResult.extend_succ rfl, RunResult.start_append]
  show (RunResult.ofStep m.step).extend n = _
  rw [step_of_error (step_fault_eq_some_iff.1 h)]
  exact RunResult.extend_of_fault rfl n

/-- The machine after `n` steps; those that fault change nothing. -/
def after (m : Machine) : ℕ → Machine
  | 0 => m
  | n + 1 => m.step.machine.after n

theorem after_of_fault (h : m.step.fault = some f) (n : ℕ) : m.after n = m := by
  have hs := step_of_error (step_fault_eq_some_iff.1 h)
  induction n with
  | zero => rfl
  | succ n ih => rw [after, hs, ih]

theorem run_machine (m : Machine) (n : ℕ) : (m.run n).machine = m.after n := by
  induction n generalizing m with
  | zero => rfl
  | succ n ih =>
    cases h : m.step.fault with
    | none => rw [run_succ_of_ok h, after, ← ih]; rfl
    | some f => rw [run_succ_of_fault h, after_of_fault h]

end Machine

end Chip8
