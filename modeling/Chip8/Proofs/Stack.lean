/-
  CHIP-8 machine — the stack as a list of return addresses.

  `CallStack.pending` lists the addresses on the stack, the latest first.  On a
  stack that is not full `push` puts an address in front, and on one that is not
  empty `pop` takes the first one away; within these bounds neither wraps the
  pointer or reaches a slot that does not exist.
-/
import Chip8.CallStack
import Mathlib.Tactic

namespace Chip8.CallStack

variable {s : CallStack} {a : UInt16}

theorem isFull_iff : s.isFull = true ↔ 16 ≤ s.pointer.toNat := decide_eq_true_iff

theorem isEmpty_iff : s.isEmpty = true ↔ s.pointer.toNat = 0 := by
  rw [isEmpty, beq_iff_eq, ← UInt8.toNat_inj]
  rfl

/-! ## Pointer and slots -/

theorem pointer_push (h : s.pointer.toNat < 16) :
    (s.push a).pointer.toNat = s.pointer.toNat + 1 := by
  rw [push, UInt8.toNat_add]
  exact Nat.mod_eq_of_lt (by simp; omega)

theorem slots_push (i : Fin 16) :
    (s.push a).slots[i] = if s.pointer.toNat = i then a else s.slots[i] := by
  simp only [push, Fin.getElem_fin, Vector.getElem_setIfInBounds]

theorem toNat_pred {p : UInt8} (h : p.toNat ≠ 0) : (p - 1).toNat = p.toNat - 1 := by
  rw [UInt8.toNat_sub_of_le p 1 (UInt8.le_iff_toNat_le.2 (by simp; omega))]
  rfl

theorem pointer_pop (h : s.pointer.toNat ≠ 0) : s.pop.2.pointer.toNat = s.pointer.toNat - 1 :=
  toNat_pred h

theorem slots_pop (h : s.pointer.toNat ≠ 0) (i : Fin 16) :
    s.pop.2.slots[i] = if s.pointer.toNat - 1 = i then 0 else s.slots[i] := by
  simp only [pop, toNat_pred h, Fin.getElem_fin, Vector.getElem_setIfInBounds]

theorem pop_fst (h : s.pointer.toNat ≠ 0) (hle : s.pointer.toNat ≤ 16) :
    s.pop.1 = s.slots[s.pointer.toNat - 1] := by
  simp only [pop, toNat_pred h]
  congr 1
  omega

/-! ## The addresses on the stack -/

/-- The addresses on the stack, the latest first. -/
def pending (s : CallStack) : List UInt16 := (s.slots.toList.take s.pointer.toNat).reverse

theorem length_pending (hle : s.pointer.toNat ≤ 16) : s.pending.length = s.pointer.toNat := by
  simp [pending, hle]

@[simp] theorem pending_empty : empty.pending = [] := rfl

theorem pending_push (h : s.pointer.toNat < 16) : (s.push a).pending = a :: s.pending := by
  have hlen : s.pointer.toNat < s.slots.toList.length := by simpa using h
  have hslots : (s.push a).slots.toList = s.slots.toList.set s.pointer.toNat a := by
    simp [push]
  rw [pending, pointer_push h, hslots, List.take_add_one, List.take_set_of_le (le_refl _),
    List.getElem?_set_self hlen]
  simp [pending]

theorem pending_pop (h : s.pointer.toNat ≠ 0) (hle : s.pointer.toNat ≤ 16) :
    s.pending = s.pop.1 :: s.pop.2.pending := by
  have hlt : s.pointer.toNat - 1 < s.slots.toList.length := by simp; omega
  have hslots : s.pop.2.slots.toList = s.slots.toList.set (s.pointer.toNat - 1) 0 := by
    simp [pop, toNat_pred h]
  have hp : s.pointer.toNat = s.pointer.toNat - 1 + 1 := by omega
  rw [pop_fst h hle, pending, pending, pointer_pop h, hslots, List.take_set_of_le (le_refl _)]
  conv_lhs => rw [hp, List.take_add_one, List.getElem?_eq_getElem hlt]
  simp

end Chip8.CallStack
