/-
  CHIP-8 machine — what a run does not depend on.

  Of a machine the timers, the keypad, the display, the random source, the key of the
  creation and the note on the display are read by few instructions or by none.  Two
  machines that differ in one of these components alone are in step as long as none of
  the instructions that read it is performed.

  * `next_forget`: which instruction is performed, or which fault found, is not seen in
    any of the components;
  * `forget_apply`: an instruction that does not read a component does the same to the
    others, whatever the component holds;
  * `AgreeOutside.run`: hence two runs report the same and end in machines that still
    differ in the component alone, if one of them reads it nowhere;
  * `run_noninterference`: the same for numbers of steps that callers give, and what the
    fault of a step depends on.
-/
import Chip8.Proofs.History
import Chip8.Proofs.Iteration

namespace Chip8

/-- The components that few instructions read. -/
inductive Component where
  /-- the delay and the sound timer -/
  | timers
  | keypad
  | display
  /-- the key of the next random byte -/
  | rng
  /-- the key the machine was created with -/
  | seedKey
  /-- the note that the display was drawn to -/
  | displayDirty

namespace Component

/-- Whether an instruction reads a component. -/
def readBy : Component → Instruction → Bool
  | timers, .readDelay _ => true
  | keypad, .waitKey _ | keypad, .skip (.keyDown _) | keypad, .skip (.keyUp _) => true
  | display, .draw .. => true
  | rng, .random .. => true
  | _, _ => false

end Component

namespace Machine

/-- The machine with a component as it is when nothing has happened to it. -/
def forget (c : Component) (m : Machine) : Machine :=
  match c with
  | .timers => { m with delayTimer := 0, soundTimer := 0 }
  | .keypad => { m with keypad := .released }
  | .display => { m with display := .blank }
  | .rng => { m with rng := ⟨0, 0⟩ }
  | .seedKey => { m with seedKey := ⟨0, 0⟩ }
  | .displayDirty => { m with displayDirty := false }

/-- Two machines agree on everything but a component. -/
def AgreeOutside (c : Component) (m m' : Machine) : Prop := m'.forget c = m.forget c

variable {c : Component} {m m' : Machine} {i : Instruction}

/-! ## One step -/

/-- What decides about a step. -/
theorem next_congr (hpc : m'.pc = m.pc) (hmemory : m'.memory = m.memory)
    (hindex : m'.index = m.index) (hpointer : m'.stack.pointer = m.stack.pointer) :
    m'.next = m.next := by
  have hfull : m'.stack.isFull = m.stack.isFull := by
    rw [CallStack.isFull, CallStack.isFull, hpointer]
  have hempty : m'.stack.isEmpty = m.stack.isEmpty := by
    rw [CallStack.isEmpty, CallStack.isEmpty, hpointer]
  have hfault : ∀ i : Instruction, i.fault? m' = i.fault? m := by
    intro i
    unfold Instruction.fault?
    rw [hfull, hempty, hindex]
  have hfetch : m'.fetchOutOfBounds = m.fetchOutOfBounds := by
    rw [fetchOutOfBounds, fetchOutOfBounds, hpc]
  have hword : m'.word = m.word := by rw [word, word, hpc, hmemory]
  have hcheck : m'.check m.word = m.check m.word := by
    cases hd : Instruction.decode? m.word with
    | none => rw [check_of_none hd, check_of_none hd]
    | some i =>
      cases hf : i.fault? m with
      | none => rw [check_of_free hd hf, check_of_free hd ((hfault i).trans hf)]
      | some f => rw [check_of_fault hd hf, check_of_fault hd ((hfault i).trans hf)]
  rw [next, next, hfetch, hword, hcheck]

theorem next_forget (c : Component) (m : Machine) : (m.forget c).next = m.next := by
  cases c <;> exact next_congr rfl rfl rfl rfl

theorem holds_forget {k : Condition} (h : c.readBy (.skip k) = false) :
    k.holds (m.forget c) = k.holds m := by
  cases c with
  | keypad =>
    cases k with
    | keyDown x | keyUp x => cases h
    | _ => rfl
  | _ => cases k <;> rfl

/-- **An instruction that does not read a component** does the same to the others. -/
theorem forget_apply (h : c.readBy i = false) :
    ((m.forget c).apply i).forget c = (m.apply i).forget c := by
  cases i with
  | skip k =>
    rw [apply_skip, apply_skip, holds_forget h]
    cases c <;> rfl
  | waitKey x =>
    rw [apply_waitKey, apply_waitKey]
    cases c with
    | keypad => cases h
    | _ => rfl
  | readDelay x =>
    cases c with
    | timers => cases h
    | _ => rfl
  | draw x y n =>
    cases c with
    | display => cases h
    | _ => rfl
  | random x kk =>
    cases c with
    | rng => cases h
    | _ => rfl
  | _ => cases c <;> rfl

namespace AgreeOutside

theorem next_eq (h : AgreeOutside c m m') : m'.next = m.next := by
  rw [← next_forget c m', h, next_forget]

theorem pc_eq (h : AgreeOutside c m m') : m'.pc = m.pc := by
  have hforget : ∀ m : Machine, (m.forget c).pc = m.pc := by cases c <;> exact fun _ => rfl
  rw [← hforget m', h, hforget]

theorem advancePc (h : AgreeOutside c m m') : AgreeOutside c m.advancePc m'.advancePc := by
  have hforget : ∀ m : Machine, m.advancePc.forget c = (m.forget c).advancePc := by
    cases c <;> exact fun _ => rfl
  rw [AgreeOutside, hforget, hforget, h]

/-- Machines that agree outside a component are in step as long as it is not read. -/
theorem step (h : AgreeOutside c m m') (hread : ∀ e ∈ m.executed, c.readBy e.instruction = false) :
    AgreeOutside c m.step.machine m'.step.machine ∧ m'.step.fault = m.step.fault ∧
      m'.step.displayChanged = m.step.displayChanged ∧ m'.executed = m.executed := by
  rcases m.next_cases with ⟨i, hi⟩ | ⟨f, hf⟩
  · have hi' := h.next_eq.trans hi
    have hnot : c.readBy i = false := by
      refine hread ⟨m.pc, i, m.step.machine.pc⟩ ?_
      rw [executed_of_ok hi]
      exact List.mem_singleton_self _
    have hmachine : AgreeOutside c m.step.machine m'.step.machine := by
      rw [step_of_ok hi, step_of_ok hi']
      show (m'.advancePc.apply i).forget c = (m.advancePc.apply i).forget c
      rw [← forget_apply hnot, h.advancePc, forget_apply hnot]
    refine ⟨hmachine, ?_, ?_, ?_⟩
    · rw [step_of_ok hi, step_of_ok hi']
    · rw [step_of_ok hi, step_of_ok hi']
    · rw [executed_of_ok hi, executed_of_ok hi', h.pc_eq, hmachine.pc_eq]
  · have hf' := h.next_eq.trans hf
    rw [step_of_error hf, step_of_error hf', executed_of_error hf, executed_of_error hf']
    exact ⟨h, rfl, rfl, rfl⟩

end AgreeOutside

/-! ## Runs -/

/-- Two runs that report the same, from machines to machines that agree outside a component. -/
structure SameRun (c : Component) (r r' : RunResult) : Prop where
  fault : r'.fault = r.fault
  steps : r'.steps = r.steps
  displayChanged : r'.displayChanged = r.displayChanged
  machine : AgreeOutside c r.machine r'.machine

/-- **Runs from machines that agree outside a component** perform the same and report the
    same as long as it is not read. -/
theorem AgreeOutside.run {n : ℕ} (h : AgreeOutside c m m')
    (hread : ∀ e ∈ m.trail n, c.readBy e.instruction = false) :
    SameRun c (m.run n) (m'.run n) ∧ m'.trail n = m.trail n := by
  induction n generalizing m m' with
  | zero => exact ⟨⟨rfl, rfl, rfl, h⟩, rfl⟩
  | succ n ih =>
    obtain ⟨hmachine, hfault, hdisplay, hexecuted⟩ :=
      h.step fun e he => hread e (List.mem_append_left _ he)
    obtain ⟨hrest, htrail⟩ := ih hmachine fun e he => hread e (List.mem_append_right _ he)
    refine ⟨?_, by rw [trail, trail, hexecuted, htrail]⟩
    cases hs : m.step.fault with
    | some f =>
      rw [run_succ_of_fault hs, run_succ_of_fault (hfault.trans hs)]
      exact ⟨rfl, rfl, rfl, h⟩
    | none =>
      rw [run_succ_of_ok hs, run_succ_of_ok (hfault.trans hs)]
      exact
        { fault := hrest.fault
          steps := by
            rw [steps_append hs, steps_append (hfault.trans hs), hrest.steps]
          displayChanged := congrArg₂ or hdisplay hrest.displayChanged
          machine := hrest.machine }

/-- **No interference between components.**  Of two machines that agree on everything but one
    component let any number of steps be asked for, and let the first perform no instruction
    that reads the component.  Then the second performs the same instructions, both runs
    report the same fault, number of steps and note on the display, and the machines
    afterwards agree on everything but the component; a number that is refused is refused for
    both.  The fault of a step depends on the program counter, memory, the index register
    and the stack pointer only. -/
theorem run_noninterference :
    (∀ (c : Component) (m m' : Machine) (n : ℤ), AgreeOutside c m m' →
      (∀ e ∈ m.trail n.toNat, c.readBy e.instruction = false) →
        m'.trail n.toNat = m.trail n.toNat ∧
          ((∃ r r', m.runInt n = .ok r ∧ m'.runInt n = .ok r' ∧ SameRun c r r') ∨
            ∃ e, m.runInt n = .error e ∧ m'.runInt n = .error e)) ∧
    ∀ m m' : Machine, m'.pc = m.pc → m'.memory = m.memory → m'.index = m.index →
      m'.stack.pointer = m.stack.pointer → m'.step.fault = m.step.fault := by
  refine ⟨fun c m m' n h hread => ?_, fun m m' hpc hmemory hindex hpointer => ?_⟩
  · obtain ⟨hrun, htrail⟩ := h.run hread
    refine ⟨htrail, ?_⟩
    unfold runInt
    split_ifs
    · exact Or.inl ⟨_, _, rfl, rfl, hrun⟩
    · exact Or.inr ⟨_, rfl, rfl⟩
  · have hnext := next_congr hpc hmemory hindex hpointer
    rcases m.next_cases with ⟨i, hi⟩ | ⟨f, hf⟩
    · rw [step_of_ok hi, step_of_ok (hnext.trans hi)]
    · rw [step_of_error hf, step_of_error (hnext.trans hf)]

/-- A program that sets the delay timer and loops, with no key down and with all keys down. -/
theorem run_noninterference_keypad :
    ∃ m m' : Machine, m'.keypad ≠ m.keypad ∧ AgreeOutside .keypad m m' ∧
      (∀ e ∈ m.trail 4, Component.keypad.readBy e.instruction = false) ∧
      ∃ r r', m.runInt 4 = .ok r ∧ m'.runInt 4 = .ok r' ∧ r.steps = 4 ∧ SameRun .keypad r r' := by
  obtain ⟨m, hm⟩ : ∃ m : Machine, m =
      (powerOn ⟨0, 0⟩).withRom [0x60, 0x05, 0xF0, 0x15, 0x12, 0x02] := ⟨_, rfl⟩
  have hagree : AgreeOutside .keypad m { m with keypad := Vector.replicate 16 true } := rfl
  have hread : ∀ e ∈ m.trail 4, Component.keypad.readBy e.instruction = false := by
    rw [hm]
    decide +kernel
  refine ⟨m, _, by rw [hm]; decide +kernel, hagree, hread, ?_⟩
  rcases (run_noninterference.1 .keypad m _ 4 hagree hread).2 with
    ⟨r, r', hr, hr', hsame⟩ | ⟨e, herror, -⟩
  · refine ⟨r, r', hr, hr', ?_, hsame⟩
    rw [runInt_eq (by decide) (by decide)] at hr
    rw [← Except.ok.inj hr, hm]
    decide +kernel
  · rw [runInt_eq (by decide) (by decide)] at herror
    cases herror

end Machine

end Chip8
