/-
  CHIP-8 machine — what holds in every state a machine reaches.

  * `Machine.Sound`: at most sixteen calls are pending, a free slot is zero, a used
    one holds an address between 2 and `0x1000`, and the program counter is at most
    `0x10FE`, which is the farthest a jump with an offset goes;
  * `Sound.exact`: on such a machine no computation of a program counter wraps;
  * `Sound.step` and `Sound.performAll`: a step keeps this, and so does any sequence of
    operations;
  * `sound_of_boot`: hence it holds in every state reached from power-on, where a step
    that does not fault reaches existing slots only.
-/
import Chip8.Proofs.History
import Chip8.Proofs.Stack

namespace Chip8

/-! ## The invariant -/

/-- What holds of the stack. -/
structure CallStack.Sound (s : CallStack) : Prop where
  pointer_le : s.pointer.toNat ≤ 16
  /-- a free slot is zero -/
  free : ∀ i : Fin 16, s.pointer.toNat ≤ i → s.slots[i] = 0
  /-- a used slot holds the address after a word within memory -/
  used : ∀ i : Fin 16, i < s.pointer.toNat → 2 ≤ s.slots[i].toNat ∧ s.slots[i].toNat ≤ 0x1000

namespace CallStack.Sound

variable {s : CallStack}

theorem empty : CallStack.empty.Sound where
  pointer_le := by decide
  free := by decide
  used := by decide

theorem push (hs : s.Sound) (h : s.pointer.toNat < 16) {a : UInt16}
    (ha : 2 ≤ a.toNat ∧ a.toNat ≤ 0x1000) : (s.push a).Sound where
  pointer_le := by rw [pointer_push h]; omega
  free i hi := by
    rw [pointer_push h] at hi
    rw [slots_push, if_neg (by omega)]
    exact hs.free i (by omega)
  used i hi := by
    rw [pointer_push h] at hi
    rw [slots_push]
    split_ifs with hp
    · exact ha
    · exact hs.used i (by omega)

theorem pop (hs : s.Sound) (h : s.pointer.toNat ≠ 0) : s.pop.2.Sound where
  pointer_le := by
    have := hs.pointer_le
    rw [pointer_pop h]; omega
  free i hi := by
    rw [pointer_pop h] at hi
    rw [slots_pop h]
    split_ifs with hp
    · rfl
    · exact hs.free i (by omega)
  used i hi := by
    rw [pointer_pop h] at hi
    rw [slots_pop h, if_neg (by omega)]
    exact hs.used i (by omega)

/-- The address on top is the one after a word within memory. -/
theorem top (hs : s.Sound) (h : s.pointer.toNat ≠ 0) :
    2 ≤ s.pop.1.toNat ∧ s.pop.1.toNat ≤ 0x1000 := by
  have hle := hs.pointer_le
  rw [pop_fst h hle]
  exact hs.used ⟨s.pointer.toNat - 1, by omega⟩ (by show s.pointer.toNat - 1 < _; omega)

end CallStack.Sound

namespace Machine

/-- **What holds in every state a machine reaches.** -/
structure Sound (m : Machine) : Prop where
  stack : m.stack.Sound
  pc_le : m.pc.toNat ≤ 0x10FE

variable {m : Machine} {i : Instruction}

/-! ## No program counter wraps -/

/-- The ways in which a program counter is computed are exact on a machine. -/
structure Exact (m : Machine) : Prop where
  /-- the fetch, and a host that skips a word -/
  advance : m.advancePc.pc.toNat = m.pc.toNat + 2
  /-- a skip -/
  skip : (m.advancePc.pc + 2).toNat = m.advancePc.pc.toNat + 2
  /-- the wait for a key, which goes back -/
  back : (m.advancePc.pc - 2).toNat + 2 = m.advancePc.pc.toNat
  /-- a jump with an offset -/
  offset : ∀ nnn : Address,
    (UInt16.ofNat (nnn + (m.registers.get 0).toNat)).toNat = nnn + (m.registers.get 0).toNat

theorem toNat_add_two {a : UInt16} (h : a.toNat ≤ 0xFFFD) : (a + 2).toNat = a.toNat + 2 := by
  rw [UInt16.toNat_add]
  exact Nat.mod_eq_of_lt (by simp; omega)

theorem toNat_ofNat_address (nnn : Address) : (UInt16.ofNat nnn).toNat = nnn :=
  UInt16.toNat_ofNat_of_lt' (nnn.isLt.trans (by decide))

theorem exact_of_pc_le (hpc : m.pc.toNat ≤ 0x10FE) : m.Exact := by
  have hadvance : m.advancePc.pc.toNat = m.pc.toNat + 2 := toNat_add_two (by omega)
  refine ⟨hadvance, toNat_add_two (by omega), ?_, fun nnn => ?_⟩
  · rw [UInt16.toNat_sub_of_le _ _ (UInt16.le_iff_toNat_le.2 (by simp; omega))]
    simp; omega
  · have hnnn := nnn.isLt
    have hV0 := (m.registers.get 0).toNat_lt
    exact UInt16.toNat_ofNat_of_lt' ((by omega : _ < 65536).trans_eq rfl)

theorem Sound.exact (hm : m.Sound) : m.Exact := exact_of_pc_le hm.pc_le

/-- Where an instruction is performed the program counter lies within memory. -/
theorem exact_of_next (h : m.next = .ok i) : m.Exact := by
  obtain ⟨hpc, -, -⟩ := next_eq_ok_iff.1 h
  exact exact_of_pc_le (by omega)

/-! ## A step keeps it -/

/-- A call is performed only if there is a free slot. -/
theorem pointer_of_next_call {nnn : Address} (h : m.next = .ok (.call nnn)) :
    m.stack.pointer.toNat < 16 := by
  obtain ⟨hpc, hd, -⟩ := next_eq_ok_iff.1 h
  rw [next_of_call hpc hd] at h
  split_ifs at h with hfull
  rw [CallStack.isFull_iff] at hfull
  omega

/-- A return is performed only if there is a used slot. -/
theorem pointer_of_next_ret (h : m.next = .ok .ret) : m.stack.pointer.toNat ≠ 0 := by
  obtain ⟨hpc, hd, -⟩ := next_eq_ok_iff.1 h
  rw [next_of_ret hpc hd] at h
  split_ifs at h with hempty
  rwa [CallStack.isEmpty_iff] at hempty

theorem Sound.stack_step (hm : m.Sound) (h : m.next = .ok i) : m.step.machine.stack.Sound := by
  obtain ⟨hpc, -, -⟩ := next_eq_ok_iff.1 h
  rw [step_of_ok h]
  show (m.advancePc.apply i).stack.Sound
  rw [apply_stack]
  cases i with
  | ret => exact hm.stack.pop (pointer_of_next_ret h)
  | call nnn =>
    refine hm.stack.push (pointer_of_next_call h) ?_
    rw [hm.exact.advance]
    omega
  | _ => exact hm.stack

/-- The program counter after an instruction, in unbounded arithmetic: `pc + 2`
    for the fetch, and from there on what the instruction does to it. -/
def target (m : Machine) : Instruction → ℕ
  | .ret => m.stack.pop.1.toNat
  | .jump nnn | .call nnn => nnn
  | .jumpOffset nnn => nnn + (m.registers.get 0).toNat
  | .skip c => if c.holds m then m.pc.toNat + 2 + 2 else m.pc.toNat + 2
  | .waitKey _ => if m.keypad.lowest?.isSome then m.pc.toNat + 2 else m.pc.toNat + 2 - 2
  | _ => m.pc.toNat + 2

/-- The program counter after a step is the unbounded one. -/
theorem Exact.toNat_pc_step (he : m.Exact) (h : m.next = .ok i) :
    m.step.machine.pc.toNat = m.target i := by
  rw [step_of_ok h]
  show (m.advancePc.apply i).pc.toNat = _
  rw [apply_pc]
  cases i with
  | ret => rfl
  | jump nnn | call nnn => exact toNat_ofNat_address nnn
  | jumpOffset nnn => exact he.offset nnn
  | skip c =>
    rw [target, apply_ite UInt16.toNat, he.skip, he.advance]
    rfl
  | waitKey x =>
    rw [target, apply_ite UInt16.toNat, ← he.advance, ← he.back]
    rfl
  | _ => exact he.advance

/-- **No program counter wraps**: the one after a step is the unbounded one. -/
theorem Sound.toNat_pc_step (hm : m.Sound) (h : m.next = .ok i) :
    m.step.machine.pc.toNat = m.target i :=
  hm.exact.toNat_pc_step h

theorem Sound.pc_step (hm : m.Sound) (h : m.next = .ok i) : m.step.machine.pc.toNat ≤ 0x10FE := by
  obtain ⟨hpc, -, -⟩ := next_eq_ok_iff.1 h
  rw [hm.toNat_pc_step h]
  cases i with
  | ret =>
    have := (hm.stack.top (pointer_of_next_ret h)).2
    simp only [target]
    omega
  | jump nnn | call nnn => simp only [target]; omega
  | jumpOffset nnn =>
    have := (m.registers.get 0).toNat_lt
    simp only [target]
    omega
  | skip c | waitKey x => simp only [target]; split_ifs <;> omega
  | _ => simp only [target]; omega

theorem Sound.step (hm : m.Sound) : m.step.machine.Sound := by
  rcases m.next_cases with ⟨i, h⟩ | ⟨f, h⟩
  · exact ⟨hm.stack_step h, hm.pc_step h⟩
  · rwa [step_of_error h]

theorem Sound.receive (hm : m.Sound) (s : Stimulus) : (m.receive s).Sound where
  stack := by rw [receive_stack]; exact hm.stack
  pc_le := by rw [receive_pc]; exact hm.pc_le

theorem Sound.skipWord (hm : m.Sound) : m.skipWord.Sound := by
  unfold Machine.skipWord
  cases h : m.fetchOutOfBounds
  · refine ⟨hm.stack, ?_⟩
    have := fetchOutOfBounds_eq_false_iff.1 h
    rw [if_neg (by simp), hm.exact.advance]
    omega
  · exact hm

theorem Sound.withRom (hm : m.Sound) (rom : Rom) : (m.withRom rom).Sound := ⟨hm.stack, hm.pc_le⟩

theorem sound_powerOn (key : Key) : (powerOn key).Sound where
  stack := .empty
  pc_le := by
    show (UInt16.ofNat Memory.programStart).toNat ≤ 0x10FE
    decide

/-! ## Every reachable state -/

theorem Sound.performAll (hm : m.Sound) (ops : List Operation) : (m.performAll ops).Sound := by
  have hsession : ((Session.start m).performAll ops).machine.Sound := by
    refine Session.performAll_induction (P := fun m _ => m.Sound) ?_ ?_ ?_ ?_ ?_ ops hm
    · exact fun key rom => (sound_powerOn key).withRom rom
    · exact fun m _ hm => hm.step
    · exact fun m _ s hm => hm.receive s
    · exact fun m _ rom hm => hm.withRom rom
    · exact fun m _ hm => hm.skipWord
  rwa [Session.machine_performAll] at hsession

/-- **Every state that can be reached** from power-on with a program is sound.
    Hence no computation of a program counter wraps, a step that does not fault goes
    where unbounded arithmetic says, and its call or return reaches a slot that
    exists.  By `perform_run` the states within a run are among these. -/
theorem sound_of_boot {seed : ℤ} {rom : Rom} {max : Value} {start : Machine}
    (h : boot seed rom max = .ok start) (ops : List Operation) :
    let m := start.performAll ops
    m.Sound ∧ m.Exact ∧
      (∀ i, m.next = .ok i → m.step.machine.pc.toNat = m.target i) ∧
      (∀ nnn, m.next = .ok (.call nnn) → m.stack.pointer.toNat < 16) ∧
      (m.next = .ok .ret → (m.stack.pointer - 1).toNat < 16) := by
  have hstart : start.Sound := boot_eq h ▸ (sound_powerOn _).withRom rom
  have hm := hstart.performAll ops
  refine ⟨hm, hm.exact, fun i => hm.toNat_pc_step, fun nnn => pointer_of_next_call, ?_⟩
  intro hret
  have hne := pointer_of_next_ret hret
  have hle := hm.stack.pointer_le
  rw [CallStack.toNat_pred hne]
  omega

/-- A program that calls itself, with a host that interferes. -/
theorem sound_of_boot_call :
    ∃ start, boot 0 [0x22, 0x00] (.int 3584) = .ok start ∧
      (start.performAll [.step, .skipWord, .stimulus .tick, .run 20, .reset]).Sound := by
  have hboot : boot 0 [0x22, 0x00] (.int 3584) = .ok ((powerOn (.ofSeed 0)).withRom _) := rfl
  exact ⟨_, hboot, (sound_of_boot hboot _).1⟩

end Machine

end Chip8
