/-
  Numbers — integers that have a nearest double.

  Rounding to a double goes by steps that double at every power of two.  Just below `2 ^ 1024`
  a step is `2 ^ 971`, so an integer is rounded up to `2 ^ 1024`, which is no double, from
  `2 ^ 1024 - 2 ^ 970` on.

  * `lt_roundHalfEven`: an odd number and a half are rounded up;
  * `Binary64.rounded_lt_iff`: a magnitude is rounded to one below a power of two iff it is
    below it by more than half a step;
  * `Binary64.ofInt?_isSome_iff`: which integers have a nearest double.
-/
import Chip8.Number
import Mathlib

namespace Chip8

/-! ## Rounding up to a power of two -/

/-- From a half on, an odd number is rounded up. -/
theorem lt_roundHalfEven {num den q : ℕ} (hodd : q % 2 = 1)
    (h : (2 * q + 1) * den ≤ 2 * num) (hden : 0 < den) : q < roundHalfEven num den := by
  have hnum := Nat.div_add_mod num den
  have hrest := Nat.mod_lt num hden
  unfold roundHalfEven
  simp only
  split_ifs
  · nlinarith
  · nlinarith
  · have : q ≤ num / den := by nlinarith
    omega
  · nlinarith

namespace Binary64

theorem spacing_pos (u : ℕ) : 0 < spacing u := Nat.two_pow_pos _

theorem spacing_of_large {u : ℕ} (h : 52 ≤ u.log2) : 2 ^ 52 * spacing u = 2 ^ u.log2 := by
  show 2 ^ 52 * 2 ^ (u.log2 - 52) = _
  rw [← pow_add, Nat.add_sub_cancel' h]

/-- A magnitude below a power of two by more than half a step is not rounded up to it. -/
theorem rounded_lt {u e : ℕ} (hu : u + 2 ^ e < 2 ^ (e + 54)) :
    roundHalfEven u (spacing u) * spacing u < 2 ^ (e + 54) := by
  have hstep : spacing u ≤ 2 * 2 ^ e := by
    rw [spacing, ← pow_succ']
    refine Nat.pow_le_pow_right two_pos ?_
    rcases eq_or_ne u 0 with rfl | hne
    · exact Nat.zero_le _
    · have := (Nat.log2_lt hne).2 ((Nat.le_add_right u _).trans_lt hu)
      omega
  have hnear := (roundHalfEven_near u (spacing_pos u)).2
  rw [mul_assoc] at hnear
  omega

/-- From half a step below a power of two on, a magnitude is rounded up to it at least. -/
theorem le_rounded {u e : ℕ} (hu : 2 ^ (e + 54) ≤ u + 2 ^ e) :
    2 ^ (e + 54) ≤ roundHalfEven u (spacing u) * spacing u := by
  have hpow : ∀ k, 2 ^ (e + k) = 2 ^ k * 2 ^ e := fun k => by rw [pow_add, mul_comm]
  have hne : u ≠ 0 := by
    have := Nat.two_pow_pos e
    have := hpow 54
    omega
  have hlog : e + 53 ≤ u.log2 := by
    refine (Nat.le_log2 hne).2 ?_
    have := hpow 53
    have := hpow 54
    omega
  have hshift := spacing_of_large (show 52 ≤ u.log2 by omega)
  obtain hlog | hlog := hlog.eq_or_lt
  · -- the last steps before the power: an odd number of them and a half
    have hstep : spacing u = 2 * 2 ^ e := by
      rw [← hlog, hpow] at hshift
      omega
    have hup : 2 ^ 53 - 1 < roundHalfEven u (spacing u) := by
      refine lt_roundHalfEven (by norm_num) ?_ (spacing_pos u)
      have := hpow 54
      rw [hstep]
      omega
    calc 2 ^ (e + 54) = 2 ^ 53 * spacing u := by rw [hpow, hstep]; ring
      _ ≤ roundHalfEven u (spacing u) * spacing u := Nat.mul_le_mul_right _ (by omega)
  · have hnear := (roundHalfEven_near u (spacing_pos u)).1
    have hup : 2 ^ 53 ≤ 2 * roundHalfEven u (spacing u) + 1 := by
      refine Nat.le_of_mul_le_mul_right ?_ (spacing_pos u)
      have := Nat.log2_self_le hne
      omega
    calc 2 ^ (e + 54) ≤ 2 ^ u.log2 := Nat.pow_le_pow_right two_pos hlog
      _ = 2 ^ 52 * spacing u := hshift.symm
      _ ≤ roundHalfEven u (spacing u) * spacing u := Nat.mul_le_mul_right _ (by omega)

theorem rounded_lt_iff (u e : ℕ) :
    roundHalfEven u (spacing u) * spacing u < 2 ^ (e + 54) ↔ u + 2 ^ e < 2 ^ (e + 54) :=
  ⟨fun h => not_le.1 fun hu => absurd (le_rounded hu) (not_le.2 h), rounded_lt⟩

/-! ## Integers too large for a double -/

/-- The least integer that is rounded up to `2 ^ 1024`, which is no double. -/
def tooLarge : Nat := .pow 2 1024 - .pow 2 970

/-- **An integer has a nearest double** iff it is not too large. -/
theorem ofInt?_isSome_iff (n : ℤ) : (ofInt? n).isSome ↔ n.natAbs < tooLarge := by
  obtain ⟨m, hone⟩ : ∃ m, one = 2 ^ m := ⟨1074, by decide +kernel⟩
  obtain ⟨e, hlarge, hlimit⟩ : ∃ e, tooLarge + 2 ^ e = limit ∧ limit = 2 ^ (e + 54) :=
    ⟨970, by decide +kernel⟩
  have hfinite := rounded_lt_iff (n.natAbs * one) (e + m)
  rw [show e + m + 54 = e + 54 + m by omega, pow_add 2 e, pow_add 2 (e + 54), ← hone, ← hlimit,
    ← Nat.add_mul, Nat.mul_lt_mul_right (by rw [hone]; exact Nat.two_pow_pos m), ← hlarge,
    Nat.add_lt_add_iff_right, hlarge] at hfinite
  rw [← hfinite, ofInt?, ofRatio?, Option.isSome_map, nearest?, Nat.div_one, Nat.one_mul]
  simp only [Option.isSome_ite]

end Binary64

end Chip8
