/-
  CHIP-8 machine — what a run reports of the display.

  A step reads off the word whether it draws, and the two instructions that draw note it in
  the machine.  Both agree: on every word, when the instruction faults, and along a run.

  * `Instruction.draws_iff_of_decode?`: the words that draw or clear;
  * `Machine.displayChanged_run`, `displayDirty_run`, `display_run`: the report of a run, its
    note and its display;
  * `Machine.run_steps`: what a run faults at contributes nothing, nor does what would follow;
  * `Machine.runInt_reports`: all of it, for numbers that callers give.
-/
import Chip8.Proofs.DisplayChange
import Chip8.Proofs.Iteration

namespace Chip8

namespace Instruction

/-- The words that draw or clear: `00E0` and `DXYN`. -/
def IsDrawing (w : UInt16) : Prop := w.toNat = 0x00E0 ∨ w.toNat / 0x1000 = 0xD

theorem encode_eq_clear_iff {i : Instruction} : i.encode = 0x00E0 ↔ i = clear :=
  encode_inj (j := clear)

theorem encode_div_eq_draw_iff {i : Instruction} :
    i.encode / 0x1000 = 0xD ↔ ∃ x y n, i = draw x y n := by
  cases i with
  | skip c => cases c <;> simp [encode]
  | clear | ret => simp [encode]
  | _ => simp [encode]

/-- **The words that draw** are told by the word alone as by the instruction it is read as. -/
theorem draws_iff_of_decode? {w : UInt16} {i : Instruction} (h : decode? w = some i) :
    i.draws = true ↔ IsDrawing w := by
  rw [IsDrawing, decode?_eq_some_iff.1 h, encode_eq_clear_iff, encode_div_eq_draw_iff]
  cases i <;> simp [draws]

end Instruction

namespace Machine

variable {m : Machine} {f : Fault} {n : ℕ}

/-- A step that reports no fault says that something was drawn iff its word draws. -/
theorem displayChanged_step_iff (h : m.step.fault = none) :
    m.step.displayChanged = true ↔ Instruction.IsDrawing m.step.word := by
  obtain ⟨i, hi⟩ := step_fault_eq_none_iff.1 h
  rw [step_of_ok hi]
  exact Instruction.draws_iff_of_decode? (next_eq_ok_iff.1 hi).2.1

/-! ## Runs -/

/-- **A run reports the words that draw** among those of the steps it made. -/
theorem displayChanged_run (m : Machine) (n : ℕ) :
    (m.run n).displayChanged = true ↔
      ∃ j < (m.run n).steps, Instruction.IsDrawing (m.after j).step.word := by
  have hrun := m.iterated_run n
  have hfree : m.FaultFree (m.run n).steps := hrun.steps.1.2
  rw [hrun.displayChanged]
  exact exists_congr fun j => and_congr_right fun hj => displayChanged_step_iff (hfree j hj)

/-- What a run reports is what it draws. -/
theorem draws_trail (m : Machine) (n : ℕ) : (m.trail n).draws = (m.run n).displayChanged := by
  induction n generalizing m with
  | zero => rfl
  | succ n ih =>
    cases h : m.step.fault with
    | none =>
      rw [run_succ_of_ok h, trail, History.draws_append, ih, ← displayChanged_step]
      rfl
    | some f =>
      rw [run_succ_of_fault h, trail_of_fault h]
      rfl

theorem redraws_run (m : Machine) (n : ℕ) : m.Redraws (m.trail n) (m.run n).machine := by
  rw [run_machine]
  exact m.redraws_after n

/-- The note is the one from before and what the run reports. -/
theorem displayDirty_run (m : Machine) (n : ℕ) :
    (m.run n).machine.displayDirty = (m.displayDirty || (m.run n).displayChanged) := by
  rw [(m.redraws_run n).displayDirty, draws_trail]

/-- A run that reports nothing leaves the display as it was. -/
theorem display_run (h : (m.run n).displayChanged = false) :
    (m.run n).machine.display = m.display :=
  (m.redraws_run n).display (by rw [draws_trail, h])

/-- **A run without the step it faults at** differs in nothing but the fault. -/
theorem run_steps (h : (m.run n).fault = some f) :
    m.run (m.run n).steps = { m.run n with fault := none } := by
  induction n generalizing m with
  | zero => cases h
  | succ n ih =>
    cases hstep : m.step.fault with
    | none =>
      rw [run_succ_of_ok hstep] at h ⊢
      rw [steps_append hstep, run_succ_of_ok hstep, ih h]
      rfl
    | some g =>
      rw [run_succ_of_fault hstep]
      rfl

/-- What a run of up to `n` steps reports of the display. -/
structure Reports (m : Machine) (n : ℕ) (r : RunResult) : Prop where
  /-- the steps made are those that report no fault in a row -/
  steps : IsGreatest {k | k ≤ n ∧ m.FaultFree k} r.steps
  /-- one of them met a word that draws or clears -/
  displayChanged : r.displayChanged = true ↔
    ∃ j < r.steps, Instruction.IsDrawing (m.after j).step.word
  displayDirty : r.machine.displayDirty = (m.displayDirty || r.displayChanged)
  display : r.displayChanged = false → r.machine.display = m.display
  /-- without the step that faults, and what was asked for after it, it is the same -/
  cut : ∀ f, r.fault = some f → m.runInt r.steps = .ok { r with fault := none }

theorem reports_run (m : Machine) (hn : n < 2 ^ 31) : m.Reports n (m.run n) where
  steps := (m.iterated_run n).steps
  displayChanged := m.displayChanged_run n
  displayDirty := m.displayDirty_run n
  display := display_run
  cut f hf := by
    have hle : (m.run n).steps ≤ n := (m.iterated_run n).steps.1.1
    rw [runInt_eq (by omega) (by omega), Int.toNat_natCast, run_steps hf]

/-- **What a run reports of the display is exact.**  Whatever the machine and the number of
    steps asked for: the run says that something was drawn iff one of the steps it made met
    `00E0` or `DXYN`; the machine notes it in addition to what was noted before; and without
    it the display is the one from before.  An instruction that faults contributes nothing,
    nor does one that would only follow.  A number of more than 32 bits is refused. -/
theorem runInt_reports (m : Machine) (n : ℤ) :
    ((-2 ^ 31 ≤ n ∧ n < 2 ^ 31) ∧ ∃ r, m.runInt n = .ok r ∧ m.Reports n.toNat r) ∨
      (¬ (-2 ^ 31 ≤ n ∧ n < 2 ^ 31) ∧ m.runInt n = .error (.stepsOverflow n)) := by
  by_cases hn : -2 ^ 31 ≤ n ∧ n < 2 ^ 31
  · exact Or.inl ⟨hn, _, runInt_eq hn.1 hn.2, m.reports_run (by omega)⟩
  · have hholds : ¬ IntegerType.int32.holds n = true :=
      mt (IntegerType.holds_signed 32 n).1 hn
    exact Or.inr ⟨hn, if_neg hholds⟩

/-- A sprite that does not lie within memory is not drawn, and not reported. -/
example :
    let m := (powerOn (.ofSeed 0)).withRom [0xAF, 0xFF, 0xD0, 0x05]
    (m.run 2).fault = some .memoryOutOfBounds ∧ (m.run 2).displayChanged = false := by
  decide +kernel

end Machine

end Chip8
