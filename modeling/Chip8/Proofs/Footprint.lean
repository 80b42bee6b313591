/-
  CHIP-8 machine — the bytes of memory that a step reads.

  A step reads the word at the program counter, and a sprite or a block of registers if
  the word asks for one.  `Machine.footprint` is the set of these addresses, stated on
  the number of the word.

  * `apply_withMemory`, `getElem_apply_memory`: an instruction on two memories that
    agree where it reads;
  * `step_withMemory`: a step on two memories that agree on its footprint;
  * `step_reads_footprint`: a step that does not fault reads its footprint, every byte of
    it and no other, and windows of a fixed size in place of its transfers come to the same.
-/
import Chip8.Proofs.FaultContract
import Chip8.Proofs.Transfer

namespace Chip8

/-- The bytes that an instruction reads. -/
def Instruction.reads (m : Machine) : Instruction → Set ℕ
  | .draw _ _ n => Set.Ico m.index.toNat (m.index.toNat + n)
  | .load x => Set.Icc m.index.toNat (m.index.toNat + x)
  | _ => ∅

/-- Memories that agree on some addresses. -/
def Memory.AgreeOn (A : Set ℕ) (m m' : Memory) : Prop := ∀ a : Address, a.val ∈ A → m[a] = m'[a]

namespace Machine

/-- The machine with another memory. -/
def withMemory (m : Machine) (mem : Memory) : Machine := { m with memory := mem }

/-- The bytes that a step reads beside the word at the program counter: the rows of a
    sprite, `DXYN`, or the values for `V0` to `VX`, `FX65`. -/
def transferred (m : Machine) : Set ℕ :=
  if m.opcode / 0x1000 = 0xD then
    Set.Ico m.index.toNat (m.index.toNat + m.opcode % 0x10)
  else if m.opcode / 0x1000 = 0xF ∧ m.opcode % 0x100 = 0x65 then
    Set.Icc m.index.toNat (m.index.toNat + m.opcode / 0x100 % 0x10)
  else ∅

/-- The bytes that a step reads. -/
def footprint (m : Machine) : Set ℕ := {m.pc.toNat, m.pc.toNat + 1} ∪ m.transferred

variable {m : Machine} {i : Instruction} {mem : Memory}

theorem transferred_eq (h : m.opcode = i.encode) : m.transferred = i.reads m := by
  unfold transferred
  rw [h]
  cases i with
  | draw | load => simp [Instruction.encode, Instruction.reads]
  | skip c => cases c <;> simp [Instruction.encode, Instruction.reads]
  | _ => simp [Instruction.encode, Instruction.reads]

/-! ## An instruction on two memories -/

/-- Where memories agree they agree after an instruction. -/
theorem getElem_apply_memory {a : ℕ} (ha : a < 4096) (h : mem[a] = m.memory[a]) :
    ((m.withMemory mem).apply i).memory[a] = (m.apply i).memory[a] := by
  rw [apply_memory, apply_memory]
  cases i with
  | decimal x | store x =>
    simp only [withMemory, Memory.getElem_writeBytes _ _ _ ha, h]
  | _ => exact h

theorem holds_withMemory (c : Condition) : c.holds (m.withMemory mem) = c.holds m := by
  cases c <;> rfl

/-- An instruction on two memories that agree where it reads. -/
theorem apply_withMemory (h : ∀ a ∈ i.reads m, mem.read a = m.memory.read a) :
    (m.withMemory mem).apply i =
      (m.apply i).withMemory ((m.withMemory mem).apply i).memory := by
  cases i with
  | draw x y n =>
    -- both sprites are cut out of the rows that are read in the first memory
    have hrows : ∀ r : Fin 32, r.val < n.val →
        (m.memory.window m.index.toNat 32).get r = mem.read (m.index.toNat + r) := by
      intro r hr
      rw [h _ ⟨Nat.le_add_right _ _, Nat.add_lt_add_left hr _⟩]
      exact Memory.getElem_window _ _ r.isLt
    have hmask : ∀ px py, Sprite.mask mem m.index.toNat px py n =
        Sprite.mask m.memory m.index.toNat px py n := by
      intro px py
      rw [Sprite.mask_eq_cut hrows,
        Sprite.mask_eq_cut fun r _ => Memory.getElem_window m.memory m.index.toNat r.isLt]
    simp only [apply, drawSprite, withMemory, hmask]
  | load x =>
    have hbytes : ∀ j ≤ x,
        (m.memory.window m.index.toNat 16).get j = mem.read (m.index.toNat + j) := by
      intro j hj
      rw [h _ ⟨Nat.le_add_right _ _, Nat.add_le_add_left (Fin.le_def.1 hj) _⟩]
      exact Memory.getElem_window _ _ j.isLt
    have hregisters :
        Vector.ofFn (fun j => if j ≤ x then mem.read (m.index.toNat + j) else m.registers.get j) =
        Vector.ofFn (fun j =>
          if j ≤ x then m.memory.read (m.index.toNat + j) else m.registers.get j) := by
      rw [Registers.ofFn_eq_fill _ x hbytes,
        Registers.ofFn_eq_fill _ x fun j _ => Memory.getElem_window m.memory _ j.isLt]
    simp only [apply, withMemory, hregisters]
    rfl
  | skip c =>
    simp only [apply, holds_withMemory]
    split_ifs
    · rfl
    · rfl
  | waitKey x =>
    simp only [apply, withMemory]
    split
    · rfl
    · rfl
  | _ => rfl

theorem get_apply_load (m : Machine) {x j : Nibble} (hj : j ≤ x) :
    (m.apply (.load x)).registers.get j = m.memory.read (m.index.toNat + j) := by
  show (Vector.ofFn _)[j.val] = _
  rw [Vector.getElem_ofFn, if_pos hj]

/-! ## A step on two memories -/

theorem toNat_word_eq (h : m.pc.toNat + 1 < 4096) :
    m.word.toNat = 0x100 * m.memory[m.pc.toNat].toNat + m.memory[m.pc.toNat + 1].toNat := by
  rw [toNat_word h, opcode, Memory.read_of_lt _ h, Memory.read_of_lt _ (Nat.lt_of_succ_lt h)]

/-- Words are the same if their bytes are. -/
theorem word_withMemory_eq_iff (h : m.pc.toNat + 1 < 4096) :
    (m.withMemory mem).word = m.word ↔
      mem[m.pc.toNat] = m.memory[m.pc.toNat] ∧ mem[m.pc.toNat + 1] = m.memory[m.pc.toNat + 1] := by
  have hword' : (m.withMemory mem).word.toNat =
      0x100 * mem[m.pc.toNat].toNat + mem[m.pc.toNat + 1].toNat :=
    toNat_word_eq (m := m.withMemory mem) h
  have hlow := m.memory[m.pc.toNat + 1].toNat_lt
  have hlow' := mem[m.pc.toNat + 1].toNat_lt
  rw [← UInt16.toNat_inj, ← UInt8.toNat_inj, ← UInt8.toNat_inj, hword', toNat_word_eq h]
  omega

/-- With the same word the same instruction is performed. -/
theorem next_withMemory (h : m.next = .ok i) (hword : (m.withMemory mem).word = m.word) :
    (m.withMemory mem).next = .ok i := by
  obtain ⟨hpc, hd, hf⟩ := next_eq_ok_iff.1 h
  have hfault : i.fault? (m.withMemory mem) = i.fault? m := by cases i <;> rfl
  exact next_eq_ok_iff.2 ⟨hpc, hword ▸ hd, hfault.trans hf⟩

/-- The bytes that a step transfers lie within memory. -/
theorem transferred_lt (hok : m.step.fault = none) : ∀ a ∈ m.transferred, a < 4096 := by
  have hall := (firstViolated_step m).eq_none_iff.1 hok
  obtain ⟨hdraw, -, hload⟩ : m.TransferFits :=
    hall ⟨m.TransferFits, .memoryOutOfBounds⟩ (by simp [requirements])
  unfold transferred
  split_ifs with hD hF
  · rintro a ⟨-, ha⟩
    have := hdraw hD
    omega
  · rintro a ⟨-, ha⟩
    have := hload hF.1 (Or.inr hF.2)
    omega
  · simp

theorem step_word (m : Machine) : m.step.word = m.word := by
  rcases m.next_cases with ⟨i, h⟩ | ⟨f, h⟩
  · rw [step_of_ok h]
  · rw [step_of_error h]

theorem opcode_of_next (h : m.next = .ok i) : m.opcode = i.encode := by
  obtain ⟨hpc, hd, -⟩ := next_eq_ok_iff.1 h
  exact (toNat_word hpc).symm.trans (Instruction.encode_of_decode? hd).symm

/-- **A step on two memories** that agree on its footprint. -/
theorem step_withMemory (h : m.next = .ok i) (hmem : mem.AgreeOn m.footprint m.memory) :
    (m.withMemory mem).step =
      ⟨m.step.machine.withMemory ((m.advancePc.withMemory mem).apply i).memory, none, m.word,
        i.draws⟩ := by
  obtain ⟨hpc, -, -⟩ := next_eq_ok_iff.1 h
  have hword : (m.withMemory mem).word = m.word :=
    (word_withMemory_eq_iff hpc).2
      ⟨hmem ⟨m.pc.toNat, by omega⟩ (Or.inl (Or.inl rfl)),
        hmem ⟨m.pc.toNat + 1, hpc⟩ (Or.inl (Or.inr rfl))⟩
  have hreads : ∀ a ∈ i.reads m.advancePc, mem.read a = m.memory.read a := by
    intro a ha
    have hin : a ∈ m.transferred := transferred_eq (opcode_of_next h) ▸ ha
    have hlt := transferred_lt (step_fault_eq_none_iff.2 ⟨i, h⟩) a hin
    rw [Memory.read_of_lt _ hlt, Memory.read_of_lt _ hlt]
    exact hmem ⟨a, hlt⟩ (Or.inr hin)
  rw [step_of_ok (next_withMemory h hword), step_of_ok h, hword]
  congr 1
  exact apply_withMemory hreads

/-- A step on a memory that differs on its footprint differs as well. -/
theorem step_withMemory_ne (h : m.next = .ok i) (hmem : ¬ mem.AgreeOn m.footprint m.memory) :
    (m.withMemory mem).step.word ≠ m.step.word ∨
      (m.withMemory mem).step.machine.registers ≠ m.step.machine.registers ∨
      (m.withMemory mem).step.machine.display ≠ m.step.machine.display := by
  obtain ⟨hpc, -, -⟩ := next_eq_ok_iff.1 h
  by_cases hword : (m.withMemory mem).word = m.word
  · refine Or.inr ?_
    obtain ⟨hhigh, hlow⟩ := (word_withMemory_eq_iff hpc).1 hword
    -- the memories differ in a byte that the instruction transfers
    obtain ⟨a, ha, hne⟩ : ∃ a ∈ i.reads m, mem.read a ≠ m.memory.read a := by
      simp only [Memory.AgreeOn, not_forall] at hmem
      obtain ⟨a, ha, hne⟩ := hmem
      rcases ha with (heq | (heq : a.val = m.pc.toNat + 1)) | hin
      · exact absurd (by simpa only [Fin.getElem_fin, heq] using hhigh) hne
      · exact absurd (by simpa only [Fin.getElem_fin, heq] using hlow) hne
      · refine ⟨a, transferred_eq (opcode_of_next h) ▸ hin, ?_⟩
        rw [Memory.read_of_lt _ a.isLt, Memory.read_of_lt _ a.isLt]
        exact hne
    rw [step_of_ok (next_withMemory h hword), step_of_ok h]
    cases i with
    | draw x y n =>
      obtain ⟨hle, hlt⟩ := ha
      refine Or.inr fun hdisplay => hne ?_
      have hr : a - m.index.toNat < n := by omega
      have hrow : mem.read (m.index.toNat + (a - m.index.toNat)) =
          m.memory.read (m.index.toNat + (a - m.index.toNat)) :=
        Sprite.read_eq_of_mask_eq (Display.toggle_inj.1 hdisplay)
          (r := ⟨a - m.index.toNat, by omega⟩) hr
      rwa [Nat.add_sub_cancel' hle] at hrow
    | load x =>
      obtain ⟨hle, hlt⟩ := ha
      refine Or.inl fun hregisters => hne ?_
      obtain ⟨j, hj⟩ : ∃ j : Nibble, j.val = a - m.index.toNat := ⟨⟨_, by omega⟩, rfl⟩
      have hjx : j ≤ x := Fin.le_def.2 (by omega)
      have hget := congrArg (fun v : Registers => v.get j) hregisters
      have hbyte : mem.read (m.index.toNat + j) = m.memory.read (m.index.toNat + j) :=
        (get_apply_load _ hjx).symm.trans (hget.trans (get_apply_load _ hjx))
      rwa [hj, Nat.add_sub_cancel' hle] at hbyte
    | _ => cases ha
  · exact Or.inl (by rw [step_word, step_word]; exact hword)

/-! ## Windows in place of transfers -/

/-- Draw a sprite out of 32 rows. -/
def drawFrom (m : Machine) (rows : Vector UInt8 32) (x y n : Nibble) : Machine :=
  let mask := Sprite.cut rows ((m.registers.get x).toNat % 64) ((m.registers.get y).toNat % 32) n
  { m with
    display := m.display.toggle mask
    displayDirty := true
    registers := m.registers.setFlag (m.display.overlaps mask) }

/-- Load registers out of sixteen bytes. -/
def loadFrom (m : Machine) (bytes : Vector UInt8 16) (x : Nibble) : Machine :=
  { m with registers := m.registers.fill x bytes, index := m.indexAfter x }

/-- Store registers by writing sixteen bytes, the last of them as they were read. -/
def storeOver (m : Machine) (bytes : Vector UInt8 16) (x : Nibble) : Machine :=
  { m with
    memory := m.memory.writeBytes m.index.toNat (m.registers.cover x bytes).toList
    index := m.indexAfter x }

theorem apply_draw {rows : Vector UInt8 32} {n : Nibble}
    (h : ∀ r : Fin 32, r.val < n.val → rows.get r = m.memory.read (m.index.toNat + r))
    (x y : Nibble) :
    m.apply (.draw x y n) = m.drawFrom rows x y n := by
  simp only [apply, drawSprite, drawFrom, Sprite.mask_eq_cut h]

theorem apply_load {bytes : Vector UInt8 16} {x : Nibble}
    (h : ∀ j ≤ x, bytes.get j = m.memory.read (m.index.toNat + j)) :
    m.apply (.load x) = m.loadFrom bytes x := by
  simp only [apply, loadFrom, Registers.ofFn_eq_fill _ x h]

theorem apply_store (m : Machine) (x : Nibble) :
    m.apply (.store x) = m.storeOver (m.memory.window m.index.toNat 16) x := by
  simp only [apply, storeOver, Registers.writeBytes_cover]

/-- **The footprint of a step** that does not fault.  What it transfers lies within memory.
    On a memory that agrees on the footprint the step reports the same, its machine is
    the same but for memory, and bytes that agreed before it agree after it; on any other
    memory it reads another word or leaves other registers or another display.  Drawing
    out of 32 rows, loading out of sixteen bytes and storing over the sixteen bytes that
    were read come to the same, whatever the rows and bytes are that the mask hides. -/
theorem step_reads_footprint (m : Machine) (hok : m.step.fault = none) :
    (∀ a ∈ m.transferred, a < 4096) ∧
      (∀ mem : Memory, mem.AgreeOn m.footprint m.memory →
        let s := (m.withMemory mem).step
        s.fault = m.step.fault ∧ s.word = m.step.word ∧
          s.displayChanged = m.step.displayChanged ∧
          s.machine.withMemory m.step.machine.memory = m.step.machine ∧
          ∀ a : Address, mem[a] = m.memory[a] → s.machine.memory[a] = m.step.machine.memory[a]) ∧
      (∀ mem : Memory, ¬ mem.AgreeOn m.footprint m.memory →
        let s := (m.withMemory mem).step
        s.word ≠ m.step.word ∨ s.machine.registers ≠ m.step.machine.registers ∨
          s.machine.display ≠ m.step.machine.display) ∧
      (∀ x y n rows, m.next = .ok (.draw x y n) →
        (∀ r : Fin 32, r.val < n.val → rows.get r = m.memory.read (m.index.toNat + r)) →
          m.step.machine = m.advancePc.drawFrom rows x y n) ∧
      (∀ x bytes, m.next = .ok (.load x) →
        (∀ j ≤ x, bytes.get j = m.memory.read (m.index.toNat + j)) →
          m.step.machine = m.advancePc.loadFrom bytes x) ∧
      (∀ x, m.next = .ok (.store x) →
        m.step.machine = m.advancePc.storeOver (m.memory.window m.index.toNat 16) x) := by
  obtain ⟨i, h⟩ := step_fault_eq_none_iff.1 hok
  refine ⟨transferred_lt hok, ?_, fun mem => step_withMemory_ne h, ?_, ?_, ?_⟩
  · intro mem hmem
    rw [step_withMemory h hmem, step_of_ok h]
    exact ⟨rfl, rfl, rfl, rfl, fun a ha => getElem_apply_memory a.isLt ha⟩
  · intro x y n rows hn hrows
    rw [step_of_ok hn]
    exact apply_draw (m := m.advancePc) hrows x y
  · intro x bytes hn hbytes
    rw [step_of_ok hn]
    exact apply_load (m := m.advancePc) hbytes
  · intro x hn
    rw [step_of_ok hn]
    exact apply_store m.advancePc x

/-- A sprite of one row in the last byte of memory, and a memory with another first byte. -/
theorem step_reads_footprint_last_byte :
    ∃ m : Machine, m.step.fault = none ∧ 0xFFF ∈ m.transferred ∧
      (m.memory.write 0 1).AgreeOn m.footprint m.memory ∧ (m.memory.write 0 1)[0] ≠ m.memory[0] ∧
      (m.withMemory (m.memory.write 0 1)).step.machine.display = m.step.machine.display := by
  obtain ⟨m, hm⟩ : ∃ m : Machine, m =
      { powerOn ⟨0, 0⟩ with
        memory := Memory.blank.writeBytes 0x200 [0xD0, 0x01]
        index := 0xFFF } := ⟨_, rfl⟩
  have hindex : m.index.toNat = 0xFFF := by rw [hm]; rfl
  have hpc : m.pc.toNat = 0x200 := by rw [hm]; rfl
  have hopcode : m.opcode = 0xD001 := by rw [hm]; decide +kernel
  have hok : m.step.fault = none := by rw [hm]; decide +kernel
  have hagree : (m.memory.write 0 1).AgreeOn m.footprint m.memory := by
    intro a ha
    have hne : ¬ 0 = a.val := by
      rintro h0
      simp [footprint, transferred, hopcode, hindex, hpc, ← h0] at ha
    exact (Memory.getElem_write _ _ _ a.isLt).trans (if_neg hne)
  have hsame := ((step_reads_footprint m hok).2.1 _ hagree).2.2.2.1
  refine ⟨m, hok, ?_, hagree, by rw [hm]; decide +kernel, ?_⟩
  · simp [transferred, hopcode, hindex]
  · exact (congrArg Machine.display hsame :)

end Machine

end Chip8
