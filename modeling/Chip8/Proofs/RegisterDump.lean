/-
  CHIP-8 machine — registers stored and loaded.

  `FX55` stores `V0` to `VX` in memory from the index register on, `FX65` loads them from
  there; both move the index register past what was transferred.

  * `Stored`, `Loaded`: what the two instructions leave, within memory and outside of it;
  * `Stored.load`, `Loaded.store`: each undoes the other, once the index register is set back;
  * `execute_store`, `execute_load`: whole windows of sixteen bytes may be moved instead,
    also where they run past the end of memory;
  * `store_load_inverse`: all this of machines that meet the words of the two instructions,
    with or without checks.
-/
import Chip8.Proofs.WriteFootprint

namespace Chip8.Machine

variable {m m' : Machine} {x : Nibble}

/-! ## What is left -/

/-- What storing `V0` to `VX` leaves. -/
structure Stored (m : Machine) (x : Nibble) (m' : Machine) : Prop where
  inside : ∀ i ≤ x, m'.memory.read (m.index.toNat + i) = m.registers.get i
  outside : ∀ a : Address, a.val ∉ Set.Icc m.index.toNat (m.index.toNat + x) →
    m'.memory.get a = m.memory.get a
  index : m'.index.toNat = m.index.toNat + x + 1

/-- What loading `V0` to `VX` leaves. -/
structure Loaded (m : Machine) (x : Nibble) (m' : Machine) : Prop where
  inside : ∀ i ≤ x, m'.registers.get i = m.memory.read (m.index.toNat + i)
  outside : ∀ i, x < i → m'.registers.get i = m.registers.get i
  memory : m'.memory = m.memory
  index : m'.index.toNat = m.index.toNat + x + 1

/-- The index register does not wrap. -/
theorem toNat_indexAfter (hfit : m.index.toNat + x + 1 ≤ 4096) :
    (m.indexAfter x).toNat = m.index.toNat + x + 1 := by
  have hx : (UInt16.ofNat (x.val + 1)).toNat = x.val + 1 :=
    UInt16.toNat_ofNat_of_lt' ((Nat.succ_le_of_lt x.lt).trans_lt (by decide))
  rw [indexAfter, UInt16.toNat_add, hx]
  exact Nat.mod_eq_of_lt (by omega)

theorem stored_apply (hfit : m.index.toNat + x + 1 ≤ 4096) : m.Stored x (m.apply (.store x)) where
  inside i hi := by
    have hle : i.val ≤ x.val := hi
    have hlt : m.index.toNat + i < 4096 := by omega
    rw [apply_memory, Memory.read_of_lt _ hlt, Memory.getElem_writeBytes _ _ _ hlt,
      if_pos (Nat.le_add_right _ _), Nat.add_sub_cancel_left, List.getElem?_take,
      if_pos (by omega), Vector.getElem?_toList, Vector.getElem?_eq_getElem i.lt, Option.getD_some]
    rfl
  outside a ha := by
    refine memory_apply_of_notMem a ?_
    rintro (h | ⟨b, hb, hba⟩)
    · cases h
    · cases hba
      exact ha hb
  index := by
    rw [apply_index]
    exact toNat_indexAfter hfit

theorem loaded_apply (hfit : m.index.toNat + x + 1 ≤ 4096) : m.Loaded x (m.apply (.load x)) where
  inside i hi := get_apply_load m hi
  outside i hi := by
    refine get_apply_of_notMem i ?_
    rintro (h | ⟨j, hj, hji⟩)
    · cases h
    · cases hji
      exact absurd hj (not_le.2 hi)
  memory := by rw [apply_memory]
  index := by
    rw [apply_index]
    exact toNat_indexAfter hfit

theorem Meets.store (h : m.Meets (.store x) m') (hfit : m.index.toNat + x + 1 ≤ 4096) :
    m.Stored x m' := by
  obtain ⟨pc, rfl⟩ := h.exists_pc (if_neg (Nat.not_lt.2 hfit))
  obtain ⟨hinside, houtside, hindex⟩ := stored_apply (m := { m with pc := pc }) hfit
  exact ⟨hinside, houtside, hindex⟩

theorem Meets.load (h : m.Meets (.load x) m') (hfit : m.index.toNat + x + 1 ≤ 4096) :
    m.Loaded x m' := by
  obtain ⟨pc, rfl⟩ := h.exists_pc (if_neg (Nat.not_lt.2 hfit))
  obtain ⟨hinside, houtside, hmemory, hindex⟩ := loaded_apply (m := { m with pc := pc }) hfit
  exact ⟨hinside, houtside, hmemory, hindex⟩

/-! ## Each undoes the other -/

/-- Loading from a window that is as it was stored. -/
theorem Stored.load {m₁ m₂ m₃ : Machine} {x' : Nibble} (h₁ : m.Stored x m₁)
    (hfit : m.index.toNat + x + 1 ≤ 4096) (hindex : m₂.index = m.index)
    (hwindow : ∀ a : Address, a.val ∈ Set.Icc m.index.toNat (m.index.toNat + x) →
      m₂.memory.get a = m₁.memory.get a)
    (hx' : x' ≤ x) (h₃ : m₂.Loaded x' m₃) {i : Nibble} (hi : i ≤ x') :
    m₃.registers.get i = m.registers.get i := by
  have hix : i.val ≤ x.val := hi.trans hx'
  have hlt : m.index.toNat + i < 4096 := by omega
  have hbyte := hwindow ⟨m.index.toNat + i, hlt⟩
    ⟨Nat.le_add_right _ _, Nat.add_le_add_left hix _⟩
  calc m₃.registers.get i
      = m₂.memory.read (m.index.toNat + i) := by rw [h₃.inside i hi, hindex]
    _ = m₁.memory.read (m.index.toNat + i) := by
      rw [Memory.read_of_lt _ hlt, Memory.read_of_lt _ hlt]
      exact hbyte
    _ = m.registers.get i := h₁.inside i (hi.trans hx')

/-- Storing what was loaded from the same place. -/
theorem Loaded.store {m₁ m₂ m₃ : Machine} (h₁ : m.Loaded x m₁)
    (hindex : m₂.index = m.index) (hmemory : m₂.memory = m₁.memory)
    (hregisters : ∀ i ≤ x, m₂.registers.get i = m₁.registers.get i) (h₃ : m₂.Stored x m₃) :
    m₃.memory = m.memory := by
  refine Vector.ext fun a ha => ?_
  by_cases hin : m.index.toNat ≤ a ∧ a ≤ m.index.toNat + x
  · obtain ⟨i, hi⟩ : ∃ i : Nibble, m.index.toNat + i.val = a :=
      ⟨⟨a - m.index.toNat, by omega⟩, Nat.add_sub_cancel' hin.1⟩
    have hix : i ≤ x := by
      rw [Fin.le_def]
      omega
    calc m₃.memory[a]
        = m₃.memory.read (m.index.toNat + i) := by rw [hi, Memory.read_of_lt _ ha]
      _ = m₁.registers.get i := by rw [← hregisters i hix, ← h₃.inside i hix, hindex]
      _ = m.memory.read (m.index.toNat + i) := h₁.inside i hix
      _ = m.memory[a] := by rw [hi, Memory.read_of_lt _ ha]
  · have hkept := h₃.outside ⟨a, ha⟩ (by rw [hindex]; exact hin)
    rw [hmemory, h₁.memory] at hkept
    exact hkept

/-! ## Windows -/

/-- Storing writes sixteen bytes over those that were read there, `V0` to `VX` first. -/
theorem execute_store (m : Machine) {w : UInt16} (hw : w.toNat = (Instruction.store x).encode) :
    m.execute w = m.storeOver (m.memory.window m.index.toNat 16) x := by
  rw [execute_of_encode hw, apply_store]

/-- Loading reads sixteen bytes, of which those for `V0` to `VX` count. -/
theorem execute_load (m : Machine) {w : UInt16} (hw : w.toNat = (Instruction.load x).encode) :
    m.execute w = m.loadFrom (m.memory.window m.index.toNat 16) x := by
  rw [execute_of_encode hw]
  exact apply_load fun j _ => Memory.getElem_window m.memory m.index.toNat j.isLt

/-! ## Both instructions -/

/-- **Storing and loading registers undo each other**, within memory.  `FX55` changes no byte
    outside its window.  If the window is as it was left and the index register is set back,
    a later `FX65` for no more registers loads what was stored, whatever the registers hold by
    then, leaves the other registers and memory alone, and moves the index register past what
    it loaded.  The other way round, if `FX65` is followed by `FX55` on the loaded registers,
    memory is as it was.  The index register never wraps.  All this is so although both
    come to moving sixteen bytes, which may run past the end of memory, under a mask. -/
theorem store_load_inverse (m : Machine) (x : Nibble) (hfit : m.index.toNat + x + 1 ≤ 4096) :
    (∀ m₁, m.Meets (.store x) m₁ →
      (∀ a : Address, a.val ∉ Set.Icc m.index.toNat (m.index.toNat + x) →
        m₁.memory.get a = m.memory.get a) ∧
      m₁.index.toNat = m.index.toNat + x + 1 ∧
      ∀ m₂ : Machine, m₂.index = m.index →
        (∀ a : Address, a.val ∈ Set.Icc m.index.toNat (m.index.toNat + x) →
          m₂.memory.get a = m₁.memory.get a) →
        ∀ x' ≤ x, ∀ m₃, m₂.Meets (.load x') m₃ →
          (∀ i ≤ x', m₃.registers.get i = m.registers.get i) ∧
          (∀ i, x' < i → m₃.registers.get i = m₂.registers.get i) ∧
          m₃.memory = m₂.memory ∧ m₃.index.toNat = m.index.toNat + x' + 1) ∧
    (∀ m₁, m.Meets (.load x) m₁ →
      m₁.index.toNat = m.index.toNat + x + 1 ∧
      ∀ m₂ : Machine, m₂.index = m.index → m₂.memory = m₁.memory →
        (∀ i ≤ x, m₂.registers.get i = m₁.registers.get i) →
        ∀ m₃, m₂.Meets (.store x) m₃ → m₃.memory = m.memory) ∧
    (∀ w : UInt16, w.toNat = (Instruction.store x).encode →
      m.execute w = m.storeOver (m.memory.window m.index.toNat 16) x) ∧
    ∀ w : UInt16, w.toNat = (Instruction.load x).encode →
      m.execute w = m.loadFrom (m.memory.window m.index.toNat 16) x := by
  refine ⟨?_, ?_, fun w => m.execute_store, fun w => m.execute_load⟩
  · intro m₁ h₁
    have hstored := h₁.store hfit
    refine ⟨hstored.outside, hstored.index, ?_⟩
    intro m₂ hindex hwindow x' hx' m₃ h₃
    have hle : x'.val ≤ x.val := hx'
    have hloaded := h₃.load (by rw [hindex]; omega)
    exact ⟨fun i => hstored.load hfit hindex hwindow hx' hloaded, hloaded.outside, hloaded.memory,
      hindex ▸ hloaded.index⟩
  · intro m₁ h₁
    have hloaded := h₁.load hfit
    refine ⟨hloaded.index, ?_⟩
    intro m₂ hindex hmemory hregisters m₃ h₃
    exact hloaded.store hindex hmemory hregisters (h₃.store (by rw [hindex]; exact hfit))

/-- Two registers stored in the last two bytes of memory and the first of them loaded again
    over others; and the two bytes loaded and stored again. -/
theorem store_load_inverse_last_bytes :
    ∃ m : Machine, m.index.toNat + 2 = 4096 ∧ m.registers.get 0 = 0x11 ∧
      let later : Machine :=
        { m.execute 0xF155 with index := m.index, registers := Vector.replicate 16 0x99 }
      (later.execute 0xF065).registers.get 0 = 0x11 ∧
      (later.execute 0xF065).registers.get 1 = 0x99 ∧
      (later.execute 0xF065).index.toNat = 4095 ∧
      (Machine.execute { m.execute 0xF165 with index := m.index } 0xF155).memory = m.memory := by
  obtain ⟨m, hm⟩ : ∃ m : Machine, m =
      { powerOn ⟨0, 0⟩ with
        registers := (Vector.replicate 16 0x22).set 0 0x11
        index := 0xFFE } := ⟨_, rfl⟩
  have hindex : m.index.toNat = 0xFFE := by rw [hm]; rfl
  have hV0 : m.registers.get 0 = 0x11 := by rw [hm]; decide
  have hstored : m.Meets (.store 1) (m.execute 0xF155) := .unchecked rfl
  have hloaded : m.Meets (.load 1) (m.execute 0xF165) := .unchecked rfl
  refine ⟨m, by rw [hindex], hV0, ?_⟩
  -- that they meet the two words is all that is needed of the two machines
  generalize m.execute 0xF155 = m₁ at hstored ⊢
  generalize m.execute 0xF165 = m₁' at hloaded ⊢
  obtain ⟨hstore, hload, -⟩ := store_load_inverse m 1 (by rw [hindex]; decide)
  obtain ⟨-, -, hlater⟩ := hstore m₁ hstored
  obtain ⟨hinside, houtside, -, hmoved⟩ :=
    hlater { m₁ with index := m.index, registers := Vector.replicate 16 0x99 } rfl
      (fun _ _ => rfl) 0 (by decide) _ (.unchecked (w := 0xF065) rfl)
  obtain ⟨-, hagain⟩ := hload m₁' hloaded
  refine ⟨?_, ?_, ?_, ?_⟩
  · rw [hinside 0 (le_refl 0), hV0]
  · rw [houtside 1 (by decide)]
    rfl
  · rw [hmoved, hindex]
    decide
  · exact hagain { m₁' with index := m.index } rfl rfl (fun _ _ => rfl) _
      (.unchecked (w := 0xF155) rfl)

end Chip8.Machine
