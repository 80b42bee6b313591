/-
  CHIP-8 machine — when a step faults, and with which fault.

  The requirements of a step are stated on the number of the word at the program
  counter, in unbounded arithmetic and in the order in which they are reported:
  the word lies within memory, it is documented, a call finds a free slot, a
  return finds a pending call, and a transfer stays within memory.

  * `step_fault_contract`: a step reports the first requirement that is violated,
    and none iff all are met; a fault leaves the whole machine as it was.
-/
import Chip8.Proofs.Stack
import Chip8.Proofs.Step

namespace Chip8

/-! ## Requirements in order -/

/-- A requirement, and the fault that its violation is. -/
structure Requirement where
  holds : Prop
  fault : Fault

/-- `FirstViolated rs v`: `v` is the fault of the first requirement of `rs` that is
    violated, or none if all are met. -/
inductive FirstViolated : List Requirement → Option Fault → Prop
  | none : FirstViolated [] none
  | met {r rs v} : r.holds → FirstViolated rs v → FirstViolated (r :: rs) v
  | violated {r rs} : ¬ r.holds → FirstViolated (r :: rs) (some r.fault)

theorem FirstViolated.eq_none_iff {rs : List Requirement} {v : Option Fault}
    (h : FirstViolated rs v) : v = .none ↔ ∀ r ∈ rs, r.holds := by
  induction h with
  | none => simp
  | met hr _ ih => simp [ih, hr]
  | violated hr => simp [hr]

/-- There is one first violation. -/
theorem FirstViolated.unique {rs : List Requirement} {v v' : Option Fault}
    (h : FirstViolated rs v) (h' : FirstViolated rs v') : v = v' := by
  induction h with
  | none => cases h'; rfl
  | met hr _ ih =>
    cases h' with
    | met _ h' => exact ih h'
    | violated hr' => exact absurd hr hr'
  | violated hr =>
    cases h' with
    | met hr' _ => exact absurd hr' hr
    | violated _ => rfl

namespace Machine

/-! ## The requirements of a step -/

/-- The number of the word at the program counter, high byte first. -/
def opcode (m : Machine) : ℕ :=
  0x100 * (m.memory.read m.pc.toNat).toNat + (m.memory.read (m.pc.toNat + 1)).toNat

/-- A call, `2NNN`, finds a free slot. -/
def CallFits (m : Machine) : Prop :=
  m.opcode / 0x1000 = 0x2 → m.stack.pointer.toNat < 16

/-- A return, `00EE`, finds a pending call. -/
def ReturnFits (m : Machine) : Prop :=
  m.opcode = 0x00EE → m.stack.pointer.toNat ≠ 0

/-- A transfer between memory and display or registers, `DXYN`, `FX33`, `FX55` or
    `FX65`, stays within memory. -/
def TransferFits (m : Machine) : Prop :=
  (m.opcode / 0x1000 = 0xD → m.index.toNat + m.opcode % 0x10 ≤ 4096) ∧
  (m.opcode / 0x1000 = 0xF → m.opcode % 0x100 = 0x33 → m.index.toNat + 3 ≤ 4096) ∧
  (m.opcode / 0x1000 = 0xF → m.opcode % 0x100 = 0x55 ∨ m.opcode % 0x100 = 0x65 →
    m.index.toNat + m.opcode / 0x100 % 0x10 + 1 ≤ 4096)

/-- **What a step requires**, in the order in which violations are reported. -/
def requirements (m : Machine) : List Requirement :=
  [ ⟨m.pc.toNat + 1 < 4096, .memoryOutOfBounds⟩,
    ⟨Documented m.opcode, .unsupportedOpcode⟩,
    ⟨m.CallFits, .stackOverflow⟩,
    ⟨m.ReturnFits, .stackUnderflow⟩,
    ⟨m.TransferFits, .memoryOutOfBounds⟩ ]

variable {m : Machine} {i : Instruction}

theorem toNat_word (h : m.pc.toNat + 1 < 4096) : m.word.toNat = m.opcode := by
  have h1 : (m.pc + 1).toNat = m.pc.toNat + 1 := by
    rw [UInt16.toNat_add]
    exact Nat.mod_eq_of_lt (by simp; omega)
  rw [word, Memory.wordAt, toNat_wordOfBytes, h1, opcode]

/-! What stands in the way of an instruction is what its word requires. -/

private theorem ite_some_ne_iff {p : Prop} [Decidable p] {f : Fault} :
    (if p then some f else none) ≠ some f ↔ ¬ p := by
  by_cases h : p <;> simp [h]

theorem callFits_iff (h : m.opcode = i.encode) :
    m.CallFits ↔ i.fault? m ≠ some .stackOverflow := by
  unfold CallFits Instruction.fault?
  rw [h]
  cases i with
  | call nnn =>
    rw [ite_some_ne_iff, CallStack.isFull_iff]
    simp [Instruction.encode]
  | skip c => cases c <;> simp [Instruction.encode]
  | _ => simp [Instruction.encode]

theorem returnFits_iff (h : m.opcode = i.encode) :
    m.ReturnFits ↔ i.fault? m ≠ some .stackUnderflow := by
  have hret : m.opcode = 0x00EE ↔ i = .ret := by
    rw [h]; exact Instruction.encode_inj (j := .ret)
  unfold ReturnFits Instruction.fault?
  rw [hret]
  cases i with
  | ret =>
    rw [ite_some_ne_iff, CallStack.isEmpty_iff]
    simp
  | _ => simp

theorem transferFits_iff (h : m.opcode = i.encode) :
    m.TransferFits ↔ i.fault? m ≠ some .memoryOutOfBounds := by
  unfold TransferFits Instruction.fault?
  rw [h]
  cases i with
  | draw | decimal | store | load =>
    rw [ite_some_ne_iff]
    simp [Instruction.encode, Memory.size]
  | skip c => cases c <;> simp [Instruction.encode]
  | _ => simp [Instruction.encode]

theorem fault?_ne_unsupportedOpcode (m : Machine) (i : Instruction) :
    i.fault? m ≠ some .unsupportedOpcode := by
  unfold Instruction.fault?
  cases i with
  | call | ret | draw | decimal | store | load =>
    dsimp only
    split_ifs <;> simp
  | _ => simp

/-- The first requirement that is violated is the fault of a step. -/
theorem firstViolated_step (m : Machine) : FirstViolated m.requirements m.step.fault := by
  by_cases hpc : m.pc.toNat + 1 < 4096
  · refine .met hpc ?_
    have hw := toNat_word hpc
    cases hd : Instruction.decode? m.word with
    | none =>
      have hdoc : ¬ Documented m.opcode := by
        rw [← hw, ← Instruction.isSome_decode?_iff, hd]
        simp
      rw [step_of_error (next_of_lt hpc ▸ check_of_none hd)]
      exact .violated hdoc
    | some i =>
      have hi := hw.symm.trans (Instruction.encode_of_decode? hd).symm
      refine .met (by rw [← hw, ← Instruction.isSome_decode?_iff, hd]; rfl) ?_
      have hcall := callFits_iff hi
      have hret := returnFits_iff hi
      have htransfer := transferFits_iff hi
      cases hf : i.fault? m with
      | none =>
        rw [step_of_ok (next_of_lt hpc ▸ check_of_free hd hf)]
        rw [hf] at hcall hret htransfer
        exact .met (hcall.2 (by simp))
          (.met (hret.2 (by simp)) (.met (htransfer.2 (by simp)) .none))
      | some f =>
        rw [step_of_error (next_of_lt hpc ▸ check_of_fault hd hf)]
        rw [hf] at hcall hret htransfer
        cases f with
        | unsupportedOpcode => exact absurd hf (fault?_ne_unsupportedOpcode m i)
        | stackOverflow => exact .violated (by simp [hcall])
        | stackUnderflow => exact .met (by simp [hcall]) (.violated (by simp [hret]))
        | memoryOutOfBounds =>
          exact .met (by simp [hcall]) (.met (by simp [hret]) (.violated (by simp [htransfer])))
  · rw [step_of_error (next_of_fetchOutOfBounds hpc)]
    exact .violated hpc

/-- **Fault contract of a step**, for every machine.  A step reports no fault iff
    the word at the program counter lies within memory, is documented and meets the
    precondition of its pattern; otherwise it reports the first of the requirements
    that is violated, returns the machine as it was and has not changed the display.
    In the families whose unknown words the unchecked executor ignores, the words it
    has no instruction for are the undocumented ones, and it does nothing for them. -/
theorem step_fault_contract (m : Machine) :
    (m.step.fault = none ↔
      m.pc.toNat + 1 < 4096 ∧ Documented m.opcode ∧ m.CallFits ∧ m.ReturnFits ∧
        m.TransferFits) ∧
    (∀ v, m.step.fault = v ↔ FirstViolated m.requirements v) ∧
    (m.step.fault ≠ none → m.step.machine = m ∧ m.step.displayChanged = false) ∧
    ∀ w : UInt16, Instruction.IgnoresUnknown w.toNat →
      (¬ Documented w.toNat ↔ Instruction.decodeLenient? w = none) ∧
      (¬ Documented w.toNat → m.execute w = m) := by
  have hfirst := firstViolated_step m
  refine ⟨?_, fun v => ⟨fun h => h ▸ hfirst, hfirst.unique⟩, fun hf => ?_, fun w hw => ?_⟩
  · rw [hfirst.eq_none_iff]
    simp [requirements]
  · rcases m.next_cases with ⟨i, h⟩ | ⟨f, h⟩
    · exact absurd (step_fault_eq_none_iff.2 ⟨i, h⟩) hf
    · rw [step_of_error h]
      exact ⟨rfl, rfl⟩
  · have hnone := Instruction.decodeLenient?_eq_none_iff hw
    refine ⟨hnone.symm, fun hd => ?_⟩
    simp only [execute, hnone.2 hd]

end Machine

end Chip8
