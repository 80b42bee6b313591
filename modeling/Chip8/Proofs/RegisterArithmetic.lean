/-
  CHIP-8 machine — arithmetic in unbounded integers, whatever the registers.

  `AluOp.Gives` says in unbounded integers what an operation makes of the values of `VX` and
  `VY`: the result and, for five operations, the flag.  Both come from the values before
  anything is written, so that it does not matter which of `VX`, `VY` and `VF` are the same
  register, except that one of the two is lost if both go to `VF`.

  * `AluOp.gives_iff`: the machine computes what `Gives` says, in the width of its registers;
  * `Registers.get_alu_self`, `Registers.get_alu_flag`: which of the two writes stays;
  * `Machine.alu_in_integers`: hence what `8XYN` does to the registers.
-/
import Chip8.Proofs.WriteFootprint

namespace Chip8

namespace AluOp

/-- What an operation gives, from the values `a` of `VX` and `b` of `VY`: a result, and a
    flag if it has one. -/
inductive Gives (a b : UInt8) : AluOp → UInt8 → Option Bool → Prop
  | set {r} : r = b → Gives a b set r none
  | or {r} : r.toNat = a.toNat ||| b.toNat → Gives a b or r none
  | and {r} : r.toNat = a.toNat &&& b.toNat → Gives a b and r none
  | xor {r} : r.toNat = a.toNat ^^^ b.toNat → Gives a b xor r none
  /-- the sum, with its carry -/
  | add {r f} : a.toNat + b.toNat = 256 * f.toNat + r.toNat → Gives a b add r (some f)
  /-- the difference modulo 256, and whether `a` is the greater -/
  | sub {r f} : (r.toNat : ℤ) = (a.toNat - b.toNat) % 256 → (f = true ↔ b.toNat < a.toNat) →
      Gives a b sub r (some f)
  /-- the half, with its remainder -/
  | shiftRight {r f} : a.toNat = 2 * r.toNat + f.toNat → Gives a b shiftRight r (some f)
  /-- the other difference modulo 256, and whether `b` is the greater -/
  | subReverse {r f} : (r.toNat : ℤ) = (b.toNat - a.toNat) % 256 →
      (f = true ↔ a.toNat < b.toNat) → Gives a b subReverse r (some f)
  /-- the double, with its carry -/
  | shiftLeft {r f} : 2 * a.toNat = 256 * f.toNat + r.toNat → Gives a b shiftLeft r (some f)

/-! ## In the width of a register

A number below 512 is a carry and its low byte, and any number is its half and a remainder. -/

theorem eq_byte_iff {n : ℕ} {r s : UInt8} {f : Bool} (hn : n < 512) (hs : s.toNat = n % 256) :
    n = 256 * f.toNat + r.toNat ↔ r = s ∧ f = decide (255 < n) := by
  have hr := r.toNat_lt
  rw [← UInt8.toNat_inj, hs]
  cases f
  · simp; omega
  · simp; omega

theorem eq_half_iff {n : ℕ} {r s : UInt8} {f : Bool} (hs : s.toNat = n / 2) :
    n = 2 * r.toNat + f.toNat ↔ r = s ∧ f = decide (n % 2 = 1) := by
  rw [← UInt8.toNat_inj, hs]
  cases f
  · simp; omega
  · simp; omega

variable {a b r : UInt8} {f : Bool}

theorem add_iff :
    a.toNat + b.toNat = 256 * f.toNat + r.toNat ↔
      r = a + b ∧ f = decide (255 < a.toNat + b.toNat) := by
  have ha := a.toNat_lt
  have hb := b.toNat_lt
  exact eq_byte_iff (by omega) (UInt8.toNat_add a b)

theorem sub_iff :
    (r.toNat : ℤ) = (a.toNat - b.toNat) % 256 ∧ (f = true ↔ b.toNat < a.toNat) ↔
      r = a - b ∧ f = decide (b < a) := by
  have ha := a.toNat_lt
  have hb := b.toNat_lt
  have hsub : ((a - b).toNat : ℤ) = (a.toNat - b.toNat : ℤ) % 256 := by
    rw [UInt8.toNat_sub]
    omega
  have hflag : (f = true ↔ b < a) ↔ f = decide (b < a) := by cases f <;> simp
  rw [← hsub, Nat.cast_inj, UInt8.toNat_inj, ← UInt8.lt_iff_toNat_lt, hflag]

theorem shiftRight_iff :
    a.toNat = 2 * r.toNat + f.toNat ↔ r = a >>> 1 ∧ f = (a % 2 == 1) := by
  have hhalf : (a >>> 1).toNat = a.toNat / 2 := by
    rw [UInt8.toNat_shiftRight, Nat.shiftRight_eq_div_pow]
    rfl
  have hbit : (a % 2 == 1) = decide (a.toNat % 2 = 1) := by
    rw [beq_eq_decide]
    exact decide_eq_decide.2 UInt8.toNat_inj.symm
  rw [eq_half_iff hhalf, hbit]

theorem shiftLeft_iff :
    2 * a.toNat = 256 * f.toNat + r.toNat ↔ r = a <<< 1 ∧ f = decide (128 ≤ a) := by
  have ha := a.toNat_lt
  have hdouble : (a <<< 1).toNat = 2 * a.toNat % 256 := by
    rw [UInt8.toNat_shiftLeft, Nat.shiftLeft_eq, Nat.mul_comm]
    rfl
  have hbit : decide (128 ≤ a) = decide (255 < 2 * a.toNat) := by
    rw [decide_eq_decide, UInt8.le_iff_toNat_le, show (128 : UInt8).toNat = 128 from rfl]
    omega
  rw [eq_byte_iff (by omega) hdouble, hbit]

/-- **The machine computes what an operation gives.** -/
theorem gives_iff {op : AluOp} {f : Option Bool} :
    op.Gives a b r f ↔ r = op.result a b ∧ f = op.flag? a b := by
  constructor
  · intro h
    cases h with
    | set h => exact ⟨h, rfl⟩
    | or h => exact ⟨UInt8.toNat_inj.1 (h.trans (UInt8.toNat_or a b).symm), rfl⟩
    | and h => exact ⟨UInt8.toNat_inj.1 (h.trans (UInt8.toNat_and a b).symm), rfl⟩
    | xor h => exact ⟨UInt8.toNat_inj.1 (h.trans (UInt8.toNat_xor a b).symm), rfl⟩
    | add h => exact (add_iff.1 h).imp_right (congrArg some)
    | sub hr hf => exact (sub_iff.1 ⟨hr, hf⟩).imp_right (congrArg some)
    | shiftRight h => exact (shiftRight_iff.1 h).imp_right (congrArg some)
    | subReverse hr hf => exact (sub_iff.1 ⟨hr, hf⟩).imp_right (congrArg some)
    | shiftLeft h => exact (shiftLeft_iff.1 h).imp_right (congrArg some)
  · rintro ⟨rfl, rfl⟩
    cases op with
    | set => exact .set rfl
    | or => exact .or (UInt8.toNat_or a b)
    | and => exact .and (UInt8.toNat_and a b)
    | xor => exact .xor (UInt8.toNat_xor a b)
    | add => exact .add (add_iff.2 ⟨rfl, rfl⟩)
    | sub => exact .sub (sub_iff.2 ⟨rfl, rfl⟩).1 (sub_iff.2 ⟨rfl, rfl⟩).2
    | shiftRight => exact .shiftRight (shiftRight_iff.2 ⟨rfl, rfl⟩)
    | subReverse => exact .subReverse (sub_iff.2 ⟨rfl, rfl⟩).1 (sub_iff.2 ⟨rfl, rfl⟩).2
    | shiftLeft => exact .shiftLeft (shiftLeft_iff.2 ⟨rfl, rfl⟩)

end AluOp

/-! ## Which write stays -/

namespace Registers

variable (v : Registers) {op : AluOp} {x y : Nibble} {f : Bool}

/-- The result stays, unless the flag is written over it. -/
theorem get_alu_self (h : x ≠ 0xF ∨ op ≠ .add) :
    (v.alu op x y).get x = op.result (v.get x) (v.get y) := by
  unfold alu
  split
  · exact get_put_self v x _
  · split_ifs with hadd
    · rw [get_setFlag_of_ne _ _ (h.resolve_right fun hop => hop hadd), get_put_self]
    · exact get_put_self _ x _

/-- The flag stays, unless the result is written over it. -/
theorem get_alu_flag (hf : op.flag? (v.get x) (v.get y) = some f) (h : x ≠ 0xF ∨ op = .add) :
    (v.alu op x y).get 0xF = f.toUInt8 := by
  unfold alu
  rw [hf]
  simp only
  split_ifs with hadd
  · exact get_put_self _ 0xF _
  · rw [get_put_of_ne _ _ (h.resolve_right hadd).symm]
    exact get_put_self _ 0xF _

/-- What an operation with result `r` and flag `f` leaves in the registers. -/
structure Took (v v' : Registers) (op : AluOp) (x : Nibble) (r : UInt8) (f : Option Bool) :
    Prop where
  /-- if `X` is `F`, addition writes its flag over the result, -/
  result : x ≠ 0xF ∨ op ≠ .add → v'.get x = r
  /-- and the others their result over the flag -/
  flag : x ≠ 0xF ∨ op = .add → ∀ b, f = some b → (v'.get 0xF).toNat = b.toNat
  other : ∀ z, z ≠ x → (z = 0xF → f = none) → v'.get z = v.get z

theorem took_alu (op : AluOp) (x y : Nibble) :
    v.Took (v.alu op x y) op x (op.result (v.get x) (v.get y)) (op.flag? (v.get x) (v.get y)) where
  result := v.get_alu_self
  flag h b hb := by
    rw [v.get_alu_flag hb h]
    cases b <;> rfl
  other z hx hflag :=
    v.get_alu_of_ne op y hx fun hop hz => hop (AluOp.flag?_eq_none_iff.1 (hflag hz))

end Registers

namespace Machine

variable {m m' : Machine} {op : AluOp} {x y : Nibble}

/-- An operation changes the registers alone, and the program counter if it is a step. -/
theorem Meets.alu (h : m.Meets (.alu op x y) m') :
    m' = { m with pc := m'.pc, registers := m.registers.alu op x y } := by
  obtain ⟨pc, rfl⟩ := h.exists_pc rfl
  rfl

/-- **Arithmetic in unbounded integers, whatever the registers.**  Let `8XYN` be performed,
    with or without checks.  From the values that `VX` and `VY` have before anything is
    written an operation gives one result and, from `8XY4` on, one flag.  The result is then in
    `VX` and the flag in `VF`, whether `X` and `Y` are the same, and whether one of them is
    `F`; only if `X` is `F` the flag of `8FY4` and the result of the others is what stays.
    The other registers and the rest of the machine are as they were, and the two shifts do
    not depend on `Y`. -/
theorem alu_in_integers (h : m.Meets (.alu op x y) m') :
    (∃ r f, op.Gives (m.registers.get x) (m.registers.get y) r f) ∧
      (∀ r f, op.Gives (m.registers.get x) (m.registers.get y) r f →
        m.registers.Took m'.registers op x r f) ∧
      m' = { m with pc := m'.pc, registers := m'.registers } ∧
      (op = .shiftRight ∨ op = .shiftLeft →
        ∀ z m'', m.Meets (.alu op x z) m'' → m''.registers = m'.registers) := by
  have hm' := h.alu
  have hregisters : m'.registers = m.registers.alu op x y := by rw [hm']
  refine ⟨⟨_, _, AluOp.gives_iff.2 ⟨rfl, rfl⟩⟩, ?_, ?_, ?_⟩
  · intro r f hgives
    obtain ⟨rfl, rfl⟩ := AluOp.gives_iff.1 hgives
    rw [hregisters]
    exact m.registers.took_alu op x y
  · rw [hregisters]
    exact hm'
  · intro hshift z m'' h''
    have hregisters'' : m''.registers = m.registers.alu op x z := by rw [h''.alu]
    rw [hregisters, hregisters'']
    rcases hshift with rfl | rfl
    · rfl
    · rfl

/-- `V1` is 200 and `VF` is 100.  `81F4` leaves the sum in `V1` and the carry in the register of
    the second operand, `8F14` only the carry, and `8F15` only the difference. -/
theorem alu_in_integers_flag_register :
    ∃ m : Machine, m.registers.get 1 = 200 ∧ m.registers.get 0xF = 100 ∧
      (m.execute 0x81F4).registers.get 1 = 44 ∧
      ((m.execute 0x81F4).registers.get 0xF).toNat = 1 ∧
      ((m.execute 0x8F14).registers.get 0xF).toNat = 1 ∧
      (m.execute 0x8F15).registers.get 0xF = 156 := by
  obtain ⟨m, h1, hF⟩ :
      ∃ m : Machine, m.registers.get 1 = 200 ∧ m.registers.get 0xF = 100 :=
    ⟨{ powerOn ⟨0, 0⟩ with registers := ((Vector.replicate 16 0).set 1 200).set 15 100 },
      by decide, by decide⟩
  have hsum : AluOp.Gives (m.registers.get 1) (m.registers.get 0xF) .add 44 (some true) := by
    rw [h1, hF]
    exact .add rfl
  have hsum' : AluOp.Gives (m.registers.get 0xF) (m.registers.get 1) .add 44 (some true) := by
    rw [h1, hF]
    exact .add rfl
  have hless : AluOp.Gives (m.registers.get 0xF) (m.registers.get 1) .sub 156 (some false) := by
    rw [h1, hF]
    exact .sub rfl (by decide)
  have h81F4 := (alu_in_integers (.unchecked (m := m) (w := 0x81F4) rfl)).2.1 _ _ hsum
  have h8F14 := (alu_in_integers (.unchecked (m := m) (w := 0x8F14) rfl)).2.1 _ _ hsum'
  have h8F15 := (alu_in_integers (.unchecked (m := m) (w := 0x8F15) rfl)).2.1 _ _ hless
  exact ⟨m, h1, hF, h81F4.result (Or.inl (by decide)), h81F4.flag (Or.inl (by decide)) _ rfl,
    h8F14.flag (Or.inr rfl) _ rfl, h8F15.result (Or.inr (by decide))⟩

end Machine

end Chip8
