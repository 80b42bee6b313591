/-
  CHIP-8 machine — what a step does.

  A step is decided by `Machine.next`: it performs the instruction found there
  or changes nothing.  `next_eq_ok_iff` says when an instruction is found,
  `next_of_call` and `next_of_ret` what becomes of a call and of a return, and `Meets`
  when the word of an instruction is performed, with or without checks.  What an
  instruction does is said component by component, from `apply_memory` to
  `apply_seedKey`, each naming the instructions that change the component.
-/
import Chip8.Proofs.Encoding
import Chip8.Step

namespace Chip8

namespace Machine

variable {m : Machine} {i : Instruction} {f : Fault}

theorem step_of_ok (h : m.next = .ok i) :
    m.step = ⟨m.advancePc.apply i, none, m.word, i.draws⟩ := by
  simp only [step, h]

theorem step_of_error (h : m.next = .error f) : m.step = ⟨m, some f, m.word, false⟩ := by
  simp only [step, h]

/-- A step either performs an instruction or faults. -/
theorem next_cases (m : Machine) : (∃ i, m.next = .ok i) ∨ ∃ f, m.next = .error f := by
  cases h : m.next with
  | ok i => exact Or.inl ⟨i, rfl⟩
  | error f => exact Or.inr ⟨f, rfl⟩

theorem step_fault_eq_none_iff : m.step.fault = none ↔ ∃ i, m.next = .ok i := by
  rcases m.next_cases with ⟨i, h⟩ | ⟨f, h⟩
  · simp [step_of_ok h, h]
  · simp [step_of_error h, h]

theorem step_fault_eq_some_iff : m.step.fault = some f ↔ m.next = .error f := by
  rcases m.next_cases with ⟨i, h⟩ | ⟨g, h⟩
  · simp [step_of_ok h, h]
  · simp [step_of_error h, h]

theorem fetchOutOfBounds_eq_false_iff : m.fetchOutOfBounds = false ↔ m.pc.toNat + 1 < 4096 := by
  rw [fetchOutOfBounds, Memory.size, decide_eq_false_iff_not, Nat.not_le]

/-! ## Which instruction is performed -/

theorem next_of_fetchOutOfBounds (h : ¬ m.pc.toNat + 1 < 4096) :
    m.next = .error .memoryOutOfBounds := by
  rw [← fetchOutOfBounds_eq_false_iff, Bool.not_eq_false] at h
  rw [next, if_pos h]

theorem next_of_lt (h : m.pc.toNat + 1 < 4096) : m.next = m.check m.word := by
  rw [← fetchOutOfBounds_eq_false_iff] at h
  rw [next, h]
  rfl

theorem check_of_none {w : UInt16} (h : Instruction.decode? w = none) :
    m.check w = .error .unsupportedOpcode := by
  simp only [check, h]

theorem check_of_fault {w : UInt16} (h : Instruction.decode? w = some i)
    (hf : i.fault? m = some f) : m.check w = .error f := by
  simp only [check, h, hf]

theorem check_of_free {w : UInt16} (h : Instruction.decode? w = some i)
    (hf : i.fault? m = none) : m.check w = .ok i := by
  simp only [check, h, hf]

/-- A step performs the instruction written at the program counter, if that lies
    within memory and nothing stands in the way of the instruction. -/
theorem next_eq_ok_iff :
    m.next = .ok i ↔
      m.pc.toNat + 1 < 4096 ∧ Instruction.decode? m.word = some i ∧ i.fault? m = none := by
  by_cases hpc : m.pc.toNat + 1 < 4096
  · rw [next_of_lt hpc]
    cases hd : Instruction.decode? m.word with
    | none => simp [check_of_none hd]
    | some j =>
      cases hj : j.fault? m with
      | none =>
        rw [check_of_free hd hj]
        constructor
        · rintro ⟨⟩; exact ⟨hpc, rfl, hj⟩
        · rintro ⟨-, ⟨⟩, -⟩; rfl
      | some f =>
        rw [check_of_fault hd hj]
        constructor
        · rintro ⟨⟩
        · rintro ⟨-, ⟨⟩, h⟩; rw [hj] at h; cases h
  · simp [next_of_fetchOutOfBounds hpc, hpc]

/-- A call is performed unless the stack is full. -/
theorem next_of_call {nnn : Address} (hpc : m.pc.toNat + 1 < 4096)
    (hd : Instruction.decode? m.word = some (.call nnn)) :
    m.next = if m.stack.isFull then .error .stackOverflow else .ok (.call nnn) := by
  have hfault : (Instruction.call nnn).fault? m =
      if m.stack.isFull then some .stackOverflow else none := by unfold Instruction.fault?; rfl
  rw [next_of_lt hpc]
  split_ifs at hfault ⊢
  · exact check_of_fault hd hfault
  · exact check_of_free hd hfault

/-- A return is performed unless the stack is empty. -/
theorem next_of_ret (hpc : m.pc.toNat + 1 < 4096)
    (hd : Instruction.decode? m.word = some .ret) :
    m.next = if m.stack.isEmpty then .error .stackUnderflow else .ok .ret := by
  have hfault : Instruction.ret.fault? m =
      if m.stack.isEmpty then some .stackUnderflow else none := by unfold Instruction.fault?; rfl
  rw [next_of_lt hpc]
  split_ifs at hfault ⊢
  · exact check_of_fault hd hfault
  · exact check_of_free hd hfault

/-! ## Performed by its word -/

/-- Without checks the word of an instruction performs it. -/
theorem execute_of_encode {w : UInt16} (h : w.toNat = i.encode) : m.execute w = m.apply i := by
  rw [execute, Instruction.decodeLenient?_of_encode h]

/-- A step performs the instruction whose word it finds, if nothing stands in its way. -/
theorem step_of_encode (hpc : m.pc.toNat + 1 < 4096) (hw : m.word.toNat = i.encode)
    (hf : i.fault? m = none) : m.step = ⟨m.advancePc.apply i, none, m.word, i.draws⟩ :=
  step_of_ok (next_eq_ok_iff.2 ⟨hpc, Instruction.decode?_of_encode hw, hf⟩)

/-- `m.Meets i m'`: the machine `m` meets the word of `i`, handed to it without checks or
    found at the program counter by a step, and is `m'` afterwards. -/
inductive Meets (m : Machine) (i : Instruction) : Machine → Prop
  | unchecked {w : UInt16} : w.toNat = i.encode → m.Meets i (m.execute w)
  | step : m.pc.toNat + 1 < 4096 → m.word.toNat = i.encode → m.Meets i m.step.machine

/-- An instruction that nothing stands in the way of is performed, the program counter being
    where it was or past the word. -/
theorem Meets.exists_pc {m' : Machine} (h : m.Meets i m') (hf : i.fault? m = none) :
    ∃ pc, m' = Machine.apply { m with pc := pc } i := by
  cases h with
  | unchecked hw => exact ⟨m.pc, execute_of_encode hw⟩
  | step hpc hw => exact ⟨m.pc + 2, by rw [step_of_encode hpc hw hf]; rfl⟩

/-! ## Component by component

The two instructions whose effect depends on a test differ from a plain update in the program
counter and, for the wait, in the register that takes the key. -/

theorem apply_skip (m : Machine) (c : Condition) :
    m.apply (.skip c) = { m with pc := if c.holds m then m.pc + 2 else m.pc } := by
  simp only [apply]
  split
  · rfl
  · rfl

theorem apply_waitKey (m : Machine) (x : Nibble) :
    m.apply (.waitKey x) =
      { m with
        pc := if m.keypad.lowest?.isSome then m.pc else m.pc - 2
        registers :=
          m.keypad.lowest?.elim m.registers fun key => m.registers.put x (.ofNat key) } := by
  simp only [apply]
  split
  · next h => rw [h]; rfl
  · next h => rw [h]; rfl

/-- The memory after an instruction. -/
theorem apply_memory (m : Machine) (i : Instruction) :
    (m.apply i).memory =
      match i with
      | .decimal x => m.memory.writeBytes m.index.toNat (decimalDigits (m.registers.get x))
      | .store x => m.memory.writeBytes m.index.toNat (m.registers.toList.take (x + 1))
      | _ => m.memory := by
  cases i with
  | skip c => rw [apply_skip]
  | waitKey x => rw [apply_waitKey]
  | _ => rfl

/-- The registers after an instruction. -/
theorem apply_registers (m : Machine) (i : Instruction) :
    (m.apply i).registers =
      match i with
      | .setByte x kk => m.registers.put x kk
      | .addByte x kk => m.registers.put x (m.registers.get x + kk)
      | .alu op x y => m.registers.alu op x y
      | .random x kk => m.registers.put x (m.rng.byte &&& kk)
      | .draw x y n => (m.drawSprite x y n).registers
      | .readDelay x => m.registers.put x m.delayTimer
      | .waitKey x => m.keypad.lowest?.elim m.registers fun key => m.registers.put x (.ofNat key)
      | .load x =>
        Vector.ofFn fun y => if y ≤ x then m.memory.read (m.index.toNat + y) else m.registers.get y
      | _ => m.registers := by
  cases i with
  | skip c => rw [apply_skip]
  | waitKey x => rw [apply_waitKey]
  | _ => rfl

/-- The index register after an instruction. -/
theorem apply_index (m : Machine) (i : Instruction) :
    (m.apply i).index =
      match i with
      | .setIndex nnn => .ofNat nnn
      | .addIndex x => m.index + (m.registers.get x).toUInt16
      | .glyph x => Font.addressOf (m.registers.get x)
      | .store x | .load x => m.indexAfter x
      | _ => m.index := by
  cases i with
  | skip c => rw [apply_skip]
  | waitKey x => rw [apply_waitKey]
  | _ => rfl

/-- The program counter after an instruction. -/
theorem apply_pc (m : Machine) (i : Instruction) :
    (m.apply i).pc =
      match i with
      | .ret => m.stack.pop.1
      | .jump nnn | .call nnn => .ofNat nnn
      | .jumpOffset nnn => .ofNat (nnn + (m.registers.get 0).toNat)
      | .skip c => if c.holds m then m.pc + 2 else m.pc
      | .waitKey _ => if m.keypad.lowest?.isSome then m.pc else m.pc - 2
      | _ => m.pc := by
  cases i with
  | skip c => rw [apply_skip]
  | waitKey x => rw [apply_waitKey]
  | _ => rfl

/-- The stack after an instruction. -/
theorem apply_stack (m : Machine) (i : Instruction) :
    (m.apply i).stack =
      match i with
      | .ret => m.stack.pop.2
      | .call _ => m.stack.push m.pc
      | _ => m.stack := by
  cases i with
  | skip c => rw [apply_skip]
  | waitKey x => rw [apply_waitKey]
  | _ => rfl

/-- The delay timer after an instruction. -/
theorem apply_delayTimer (m : Machine) (i : Instruction) :
    (m.apply i).delayTimer =
      match i with
      | .setDelay x => m.registers.get x
      | _ => m.delayTimer := by
  cases i with
  | skip c => rw [apply_skip]
  | waitKey x => rw [apply_waitKey]
  | _ => rfl

/-- The sound timer after an instruction. -/
theorem apply_soundTimer (m : Machine) (i : Instruction) :
    (m.apply i).soundTimer =
      match i with
      | .setSound x => m.registers.get x
      | _ => m.soundTimer := by
  cases i with
  | skip c => rw [apply_skip]
  | waitKey x => rw [apply_waitKey]
  | _ => rfl

/-- No instruction changes the keypad. -/
theorem apply_keypad (m : Machine) (i : Instruction) : (m.apply i).keypad = m.keypad := by
  cases i with
  | skip c => rw [apply_skip]
  | waitKey x => rw [apply_waitKey]
  | _ => rfl

/-- The display after an instruction. -/
theorem apply_display (m : Machine) (i : Instruction) :
    (m.apply i).display =
      match i with
      | .clear => .blank
      | .draw x y n => (m.drawSprite x y n).display
      | _ => m.display := by
  cases i with
  | skip c => rw [apply_skip]
  | waitKey x => rw [apply_waitKey]
  | _ => rfl

/-- The display is noted as drawn to by the instructions that draw or clear. -/
theorem apply_displayDirty (m : Machine) (i : Instruction) :
    (m.apply i).displayDirty = (m.displayDirty || i.draws) := by
  cases i with
  | clear | draw => exact (Bool.or_true _).symm
  | skip c => rw [apply_skip]; exact (Bool.or_false _).symm
  | waitKey x => rw [apply_waitKey]; exact (Bool.or_false _).symm
  | _ => exact (Bool.or_false _).symm

/-- The key of the next random byte after an instruction. -/
theorem apply_rng (m : Machine) (i : Instruction) :
    (m.apply i).rng =
      match i with
      | .random _ _ => m.rng.next
      | _ => m.rng := by
  cases i with
  | skip c => rw [apply_skip]
  | waitKey x => rw [apply_waitKey]
  | _ => rfl

/-- No instruction changes the key of the creation. -/
theorem apply_seedKey (m : Machine) (i : Instruction) : (m.apply i).seedKey = m.seedKey := by
  cases i with
  | skip c => rw [apply_skip]
  | waitKey x => rw [apply_waitKey]
  | _ => rfl

/-! ## What no step changes -/

theorem step_keypad (m : Machine) : m.step.machine.keypad = m.keypad := by
  rcases m.next_cases with ⟨i, h⟩ | ⟨f, h⟩
  · rw [step_of_ok h]
    exact m.advancePc.apply_keypad i
  · rw [step_of_error h]

theorem step_seedKey (m : Machine) : m.step.machine.seedKey = m.seedKey := by
  rcases m.next_cases with ⟨i, h⟩ | ⟨f, h⟩
  · rw [step_of_ok h]
    exact m.advancePc.apply_seedKey i
  · rw [step_of_error h]

end Machine

end Chip8
