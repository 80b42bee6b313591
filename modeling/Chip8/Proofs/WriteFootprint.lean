/-
  CHIP-8 machine — what a step writes.

  A machine is taken apart into its cells: every byte of memory, every register, every
  slot of the stack, and the remaining components as wholes.  `Instruction.writes` is the
  table of the cells that an instruction may write beside the program counter.

  * `changed_eq_empty_iff`: the cells are all there is to a machine;
  * `sameAt_apply`: an instruction leaves every other cell as it was, although it may
    put whole windows of memory or of the registers together anew;
  * `Condition.holds_iff`: what the conditions that skips test say of registers and keys;
  * `step_writes_footprint`: hence a step changes no cell but those of the table, and the
    program counter goes where the instruction says.
-/
import Chip8.Proofs.Footprint
import Chip8.Proofs.Invariant

namespace Chip8

/-! ## Cells -/

/-- A part of a machine that is written as a whole. -/
inductive Cell where
  | memory (a : Address)
  | register (x : Nibble)
  | index
  | pc
  | stackPointer
  | slot (j : Fin 16)
  | delayTimer
  | soundTimer
  | keypad
  | display
  | displayDirty
  | rng
  | seedKey

namespace Machine

/-- Two machines hold the same in a cell. -/
def SameAt (m m' : Machine) : Cell → Prop
  | .memory a => m'.memory.get a = m.memory.get a
  | .register x => m'.registers.get x = m.registers.get x
  | .index => m'.index = m.index
  | .pc => m'.pc = m.pc
  | .stackPointer => m'.stack.pointer = m.stack.pointer
  | .slot j => m'.stack.slots.get j = m.stack.slots.get j
  | .delayTimer => m'.delayTimer = m.delayTimer
  | .soundTimer => m'.soundTimer = m.soundTimer
  | .keypad => m'.keypad = m.keypad
  | .display => m'.display = m.display
  | .displayDirty => m'.displayDirty = m.displayDirty
  | .rng => m'.rng = m.rng
  | .seedKey => m'.seedKey = m.seedKey

/-- The cells in which two machines differ. -/
def changed (m m' : Machine) : Set Cell := {c | ¬ m.SameAt m' c}

variable {m m' : Machine} {i : Instruction} {c : Cell}

/-- The cells are all there is to a machine. -/
theorem changed_eq_empty_iff : m.changed m' = ∅ ↔ m' = m := by
  constructor
  · intro h
    have hsame : ∀ c, m.SameAt m' c := fun c => not_not.1 (Set.eq_empty_iff_forall_notMem.1 h c)
    have hmemory : m'.memory = m.memory := Vector.ext fun a ha => hsame (.memory ⟨a, ha⟩)
    have hregisters : m'.registers = m.registers :=
      Vector.ext fun x hx => hsame (.register ⟨x, hx⟩)
    have hslots : m'.stack.slots = m.stack.slots := Vector.ext fun j hj => hsame (.slot ⟨j, hj⟩)
    have hstack : m'.stack = m.stack := by
      rw [show m'.stack = ⟨m'.stack.slots, m'.stack.pointer⟩ from rfl, hslots]
      exact congrArg (CallStack.mk _) (hsame .stackPointer)
    calc
      m' = ⟨m'.memory, m'.registers, m'.index, m'.pc, m'.stack, m'.delayTimer, m'.soundTimer,
          m'.keypad, m'.display, m'.displayDirty, m'.rng, m'.seedKey⟩ := rfl
      _ = m := by
        rw [hmemory, hregisters, hstack, hsame .index, hsame .pc, hsame .delayTimer,
          hsame .soundTimer, hsame .keypad, hsame .display, hsame .displayDirty, hsame .rng,
          hsame .seedKey]
  · rintro rfl
    refine Set.eq_empty_iff_forall_notMem.2 fun c hc => hc ?_
    cases c <;> rfl

end Machine

/-! ## The table -/

/-- The cells that an instruction may write beside the program counter. -/
def Instruction.writes (m : Machine) : Instruction → Set Cell
  | .jump _ | .jumpOffset _ | .skip _ => ∅
  | .clear => {.display, .displayDirty}
  | .ret => insert .stackPointer (Cell.slot '' {j | j.val + 1 = m.stack.pointer.toNat})
  | .call _ => insert .stackPointer (Cell.slot '' {j | j.val = m.stack.pointer.toNat})
  | .setByte x _ | .addByte x _ | .readDelay x | .waitKey x => {.register x}
  | .alu op x _ =>
    if op ∈ [.set, .or, .and, .xor] then {.register x} else {.register x, .register 0xF}
  | .setIndex _ | .addIndex _ | .glyph _ => {.index}
  | .random x _ => {.register x, .rng}
  | .draw .. => {.display, .displayDirty, .register 0xF}
  | .setDelay _ => {.delayTimer}
  | .setSound _ => {.soundTimer}
  | .decimal _ => Cell.memory '' {a | a.val ∈ Set.Ico m.index.toNat (m.index.toNat + 3)}
  | .store x =>
    insert .index (Cell.memory '' {a | a.val ∈ Set.Icc m.index.toNat (m.index.toNat + x)})
  | .load x => insert .index (Cell.register '' Set.Iic x)

/-! ## Registers -/

/-- The first four operations have no flag. -/
theorem AluOp.flag?_eq_none_iff {op : AluOp} {a b : UInt8} :
    op.flag? a b = none ↔ op ∈ [set, or, and, xor] := by
  cases op <;> simp [flag?]

namespace Registers

variable (v : Registers) {x z : Nibble}

theorem get_setFlag_of_ne (f : Bool) (h : z ≠ 0xF) : (v.setFlag f).get z = v.get z :=
  v.get_put_of_ne _ h

/-- An operation leaves the other registers alone, and the flag too if it has none. -/
theorem get_alu_of_ne (op : AluOp) (y : Nibble) (hx : z ≠ x)
    (hflag : op ∉ [AluOp.set, .or, .and, .xor] → z ≠ 0xF) : (v.alu op x y).get z = v.get z := by
  unfold alu
  split
  · exact v.get_put_of_ne _ hx
  · next f hf =>
    have hz : z ≠ 0xF := hflag fun hop => by rw [AluOp.flag?_eq_none_iff.2 hop] at hf; cases hf
    split_ifs
    · rw [get_setFlag_of_ne _ _ hz, get_put_of_ne _ _ hx]
    · rw [get_put_of_ne _ _ hx, get_setFlag_of_ne _ _ hz]

end Registers

/-! ## Everything else stays as it was -/

namespace Machine

variable {m : Machine} {i : Instruction} {c : Cell}

/-- Memory outside what an instruction writes. -/
theorem memory_apply_of_notMem (a : Address) (h : .memory a ∉ i.writes m) :
    (m.apply i).memory.get a = m.memory.get a := by
  rw [apply_memory]
  cases i with
  | decimal x =>
    refine Memory.getElem_writeBytes_of_notMem _ a.isLt fun hmem => h ⟨a, hmem, rfl⟩
  | store x =>
    refine Memory.getElem_writeBytes_of_notMem _ a.isLt fun hmem => h (Or.inr ⟨a, ?_, rfl⟩)
    have := x.isLt
    simp only [List.length_take, Vector.length_toList, Set.mem_Ico] at hmem
    exact ⟨hmem.1, by omega⟩
  | _ => rfl

/-- Registers outside what an instruction writes. -/
theorem get_apply_of_notMem (z : Nibble) (h : .register z ∉ i.writes m) :
    (m.apply i).registers.get z = m.registers.get z := by
  rw [apply_registers]
  cases i with
  | setByte x kk | addByte x kk | readDelay x =>
    exact Registers.get_put_of_ne _ _ fun hz => h (hz ▸ rfl)
  | random x kk => exact Registers.get_put_of_ne _ _ fun hz => h (hz ▸ Or.inl rfl)
  | waitKey x =>
    cases m.keypad.lowest? with
    | none => rfl
    | some key => exact Registers.get_put_of_ne _ _ fun hz => h (hz ▸ rfl)
  | alu op x y =>
    rw [Instruction.writes] at h
    split_ifs at h with hop
    · exact Registers.get_alu_of_ne _ _ _ (fun hz => h (hz ▸ rfl)) fun hno => absurd hop hno
    · exact Registers.get_alu_of_ne _ _ _ (fun hz => h (hz ▸ Or.inl rfl))
        fun _ hz => h (hz ▸ Or.inr rfl)
  | draw x y n => exact Registers.get_setFlag_of_ne _ _ fun hz => h (hz ▸ Or.inr (Or.inr rfl))
  | load x =>
    have hz : ¬ z ≤ x := fun hle => h (Or.inr ⟨z, hle, rfl⟩)
    show (Vector.ofFn _)[z.val] = _
    rw [Vector.getElem_ofFn, if_neg hz]
  | _ => rfl

/-- Slots of the stack outside what an instruction writes. -/
theorem slots_apply_of_notMem (j : Fin 16) (h : .slot j ∉ i.writes m)
    (hret : i = .ret → m.stack.pointer.toNat ≠ 0) :
    (m.apply i).stack.slots.get j = m.stack.slots.get j := by
  rw [apply_stack]
  cases i with
  | ret =>
    refine (m.stack.slots_pop (hret rfl) j).trans (if_neg fun hj => h (Or.inr ⟨j, ?_, rfl⟩))
    have := hret rfl
    show j.val + 1 = _
    omega
  | call nnn =>
    exact (m.stack.slots_push j).trans (if_neg fun hj => h (Or.inr ⟨j, hj.symm, rfl⟩))
  | _ => rfl

/-- **An instruction changes no cell but those it writes**, and the program counter. -/
theorem sameAt_apply (h : c ∉ i.writes m) (hpc : c ≠ .pc)
    (hret : i = .ret → m.stack.pointer.toNat ≠ 0) : m.SameAt (m.apply i) c := by
  cases c with
  | memory a => exact memory_apply_of_notMem a h
  | register z => exact get_apply_of_notMem z h
  | slot j => exact slots_apply_of_notMem j h hret
  | pc => exact absurd rfl hpc
  | index =>
    rw [SameAt, apply_index]
    split <;> simp_all [Instruction.writes]
  | stackPointer =>
    rw [SameAt, apply_stack]
    split <;> simp_all [Instruction.writes]
  | delayTimer =>
    rw [SameAt, apply_delayTimer]
    split <;> simp_all [Instruction.writes]
  | soundTimer =>
    rw [SameAt, apply_soundTimer]
    split <;> simp_all [Instruction.writes]
  | keypad => exact m.apply_keypad i
  | display =>
    rw [SameAt, apply_display]
    split <;> simp_all [Instruction.writes]
  | displayDirty =>
    rw [SameAt, apply_displayDirty]
    cases i <;> simp_all [Instruction.writes, Instruction.draws]
  | rng =>
    rw [SameAt, apply_rng]
    split <;> simp_all [Instruction.writes]
  | seedKey => exact m.apply_seedKey i

end Machine

/-! ## Tests -/

/-- What a condition says: two numbers are the same or not, or the key named by the low four
    bits of a register is down or up. -/
def Condition.Says (m : Machine) : Condition → Prop
  | isByte x kk => (m.registers.get x).toNat = kk.toNat
  | notByte x kk => (m.registers.get x).toNat ≠ kk.toNat
  | isRegister x y => (m.registers.get x).toNat = (m.registers.get y).toNat
  | notRegister x y => (m.registers.get x).toNat ≠ (m.registers.get y).toNat
  | keyDown x => ∃ key, key.val = (m.registers.get x).toNat % 16 ∧ m.keypad.get key = true
  | keyUp x => ∃ key, key.val = (m.registers.get x).toNat % 16 ∧ m.keypad.get key = false

theorem Keypad.get_ofNat_eq_iff (k : Keypad) (n : ℕ) (down : Bool) :
    k.get (.ofNat 16 n) = down ↔ ∃ key, key.val = n % 16 ∧ k.get key = down := by
  constructor
  · intro h
    exact ⟨.ofNat 16 n, rfl, h⟩
  · rintro ⟨key, hkey, h⟩
    rwa [show (.ofNat 16 n : Nibble) = key from Fin.ext hkey.symm]

/-- A condition holds if what it says is so. -/
theorem Condition.holds_iff (m : Machine) (c : Condition) : c.holds m = true ↔ c.Says m := by
  cases c with
  | isByte x kk | isRegister x y => simp [holds, Says, UInt8.toNat_inj]
  | notByte x kk | notRegister x y => simp [holds, Says, UInt8.toNat_inj]
  | keyDown x => exact m.keypad.get_ofNat_eq_iff _ _
  | keyUp x =>
    rw [holds, Bool.not_eq_true']
    exact m.keypad.get_ofNat_eq_iff _ _

/-- The condition that tests the same for the opposite outcome. -/
def Condition.opposite : Condition → Condition
  | isByte x kk => notByte x kk
  | notByte x kk => isByte x kk
  | isRegister x y => notRegister x y
  | notRegister x y => isRegister x y
  | keyDown x => keyUp x
  | keyUp x => keyDown x

theorem Condition.holds_opposite (m : Machine) (c : Condition) :
    c.opposite.holds m = !c.holds m := by
  cases c <;> simp [opposite, holds, bne]

theorem Keypad.lowest?_eq_none_iff {k : Keypad} : k.lowest? = none ↔ ∀ key, k.get key = false := by
  simp [lowest?]

namespace Machine

variable {m : Machine} {i : Instruction}

/-! ## What a step writes -/

/-- What a step that performs an instruction writes. -/
structure Performs (m : Machine) (i : Instruction) : Prop where
  /-- the instruction is the one whose word stands at the program counter -/
  opcode : m.opcode = i.encode
  changed : m.changed m.step.machine ⊆ insert .pc (i.writes m)
  /-- the program counter in unbounded arithmetic -/
  pc : m.step.machine.pc.toNat = m.target i
  /-- a return goes where the slot below the pointer says -/
  ret : i = .ret →
    m.step.machine.pc = m.stack.slots[min (m.stack.pointer.toNat - 1) 15]
  /-- a wait stays where it is as long as no key is down -/
  wait : ∀ x, i = .waitKey x → (m.step.machine.pc = m.pc ↔ ∀ key, m.keypad.get key = false)
  /-- a skip goes past the next word if what its condition says is so -/
  skip : ∀ c, i = .skip c → (m.step.machine.pc.toNat = m.pc.toNat + 4 ↔ c.Says m)

theorem changed_step (h : m.next = .ok i) : m.changed m.step.machine ⊆ insert .pc (i.writes m) := by
  intro c hc
  by_contra hout
  obtain ⟨hpc, hwrites⟩ := not_or.1 hout
  -- past the fetch the instruction writes the same cells, and all but `pc` hold the same
  have hret : i = .ret → m.stack.pointer.toNat ≠ 0 := fun hi => pointer_of_next_ret (hi ▸ h)
  have hsame : m.advancePc.SameAt (m.advancePc.apply i) c :=
    sameAt_apply (by cases i <;> exact hwrites) hpc hret
  refine hc ?_
  rw [step_of_ok h]
  cases c with
  | pc => exact absurd rfl hpc
  | _ => exact hsame

theorem performs_step (h : m.next = .ok i) : m.Performs i where
  opcode := opcode_of_next h
  changed := changed_step h
  pc := (exact_of_next h).toNat_pc_step h
  ret := by
    rintro rfl
    have hne := pointer_of_next_ret h
    rw [step_of_ok h]
    show m.stack.pop.1 = _
    simp only [CallStack.pop, CallStack.toNat_pred hne]
  wait := by
    rintro x rfl
    rw [← UInt16.toNat_inj, (exact_of_next h).toNat_pc_step h, target,
      ← Keypad.lowest?_eq_none_iff, ← Option.not_isSome_iff_eq_none]
    split_ifs with hkey
    · simp [hkey]
    · simp [hkey]
  skip := by
    rintro c rfl
    rw [(exact_of_next h).toNat_pc_step h, target, ← c.holds_iff m]
    split_ifs with hc
    · simp [hc]
    · simp [hc]

/-- **What a step writes.**  A step that does not fault performs the instruction whose word
    stands at the program counter; beside the program counter it changes no cell but those
    that the instruction writes, and the program counter goes where the instruction says.  A
    step that faults changes no cell at all, and no step changes the keypad or the key of the
    creation.  A condition holds if what it says is so, and of two opposite ones one holds, so
    that exactly one of the two skips is made. -/
theorem step_writes_footprint (m : Machine) :
    (m.step.fault = none → ∃ i, m.next = .ok i ∧ m.Performs i) ∧
      (m.step.fault ≠ none → m.changed m.step.machine = ∅) ∧
      m.step.machine.keypad = m.keypad ∧ m.step.machine.seedKey = m.seedKey ∧
      (∀ m', m.changed m' = ∅ ↔ m' = m) ∧
      (∀ c : Condition, c.holds m = true ↔ c.Says m) ∧
      ∀ c : Condition, c.opposite.holds m = !c.holds m := by
  refine ⟨fun hok => ?_, fun hf => ?_, m.step_keypad, m.step_seedKey,
    fun m' => changed_eq_empty_iff, Condition.holds_iff m, Condition.holds_opposite m⟩
  · obtain ⟨i, h⟩ := step_fault_eq_none_iff.1 hok
    exact ⟨i, h, performs_step h⟩
  · obtain ⟨f, hf⟩ := Option.ne_none_iff_exists'.1 hf
    rw [changed_eq_empty_iff, step_of_error (step_fault_eq_some_iff.1 hf)]

/-- Two registers stored in the last two bytes of memory. -/
theorem step_writes_footprint_last_bytes :
    ∃ m : Machine, m.step.fault = none ∧ m.next = .ok (.store 1) ∧ m.Performs (.store 1) ∧
      m.step.machine.memory[0xFFD] = m.memory[0xFFD] := by
  obtain ⟨m, hm⟩ : ∃ m : Machine, m =
      { powerOn ⟨0, 0⟩ with
        memory := Memory.blank.writeBytes 0x200 [0xF1, 0x55]
        index := 0xFFE } := ⟨_, rfl⟩
  have hok : m.step.fault = none := by rw [hm]; decide +kernel
  have hindex : m.index.toNat = 0xFFE := by rw [hm]; rfl
  obtain ⟨i, hnext, hperforms⟩ := (step_writes_footprint m).1 hok
  have hi : i = .store 1 := by
    rw [← Instruction.encode_inj, ← hperforms.opcode, hm]
    decide +kernel
  subst hi
  refine ⟨m, hok, hnext, hperforms, ?_⟩
  -- the byte before the window is none of the cells that the instruction writes
  by_contra hne
  have hmem : Cell.memory 0xFFD ∈ m.changed m.step.machine := hne
  simpa [Instruction.writes, hindex] using hperforms.changed hmem

end Machine

end Chip8
