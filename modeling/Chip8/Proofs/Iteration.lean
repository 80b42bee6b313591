/-
  CHIP-8 machine — a run is iterated steps.

  `Machine.after` iterates the step.  A run makes as many of these steps as report no
  fault in a row, up to the number asked for, and what it reports is read off them.

  * `iterated_run`: number of steps, machine, fault and note on the display of a run;
  * `run_add_of_ok`, `run_add_of_fault`: a run of `a + b` steps is one of `a` and, unless
    that faults, one of `b` from where it ended;
  * `runInt_iterated`: the same for numbers that callers give, which may be negative.
-/
import Chip8.Proofs.Operations

namespace Chip8

namespace Machine

/-! ## Steps in a row -/

/-- The first `k` steps report no fault. -/
def FaultFree (m : Machine) (k : ℕ) : Prop := ∀ j < k, (m.after j).step.fault = none

/-- A run of up to `n` steps in terms of the steps it is made of. -/
structure Iterated (m : Machine) (n : ℕ) (r : RunResult) : Prop where
  /-- as many steps as report no fault in a row -/
  steps : IsGreatest {k | k ≤ n ∧ m.FaultFree k} r.steps
  machine : r.machine = m.after r.steps
  fault_eq_none_iff : r.fault = none ↔ r.steps = n
  /-- the fault is that of the step that was not made -/
  fault_eq : r.steps ≠ n → r.fault = (m.after r.steps).step.fault
  displayChanged : r.displayChanged = true ↔
    ∃ j < r.steps, (m.after j).step.displayChanged = true

variable {m : Machine} {f : Fault} {n : ℕ} {r : RunResult}

theorem faultFree_zero (m : Machine) : m.FaultFree 0 := fun _ h => absurd h (Nat.not_lt_zero _)

theorem faultFree_succ {k : ℕ} :
    m.FaultFree (k + 1) ↔ m.step.fault = none ∧ m.step.machine.FaultFree k := by
  constructor
  · intro h
    exact ⟨h 0 (Nat.succ_pos k), fun j hj => h (j + 1) (Nat.succ_lt_succ hj)⟩
  · rintro ⟨h, hk⟩ j hj
    cases j with
    | zero => exact h
    | succ j => exact hk j (Nat.lt_of_succ_lt_succ hj)

theorem iterated_start (m : Machine) : m.Iterated 0 (RunResult.start m) where
  steps := ⟨⟨le_refl 0, faultFree_zero m⟩, fun _ hk => hk.1⟩
  machine := rfl
  fault_eq_none_iff := by simp [RunResult.start]
  fault_eq h := absurd rfl h
  displayChanged := by simp [RunResult.start]

/-- A run whose first step faults makes no step. -/
theorem iterated_of_fault (h : m.step.fault = some f) (n : ℕ) :
    m.Iterated (n + 1) ⟨m, some f, 0, false⟩ where
  steps := by
    refine ⟨⟨Nat.zero_le _, faultFree_zero m⟩, ?_⟩
    rintro k ⟨-, hk⟩
    cases k with
    | zero => exact le_refl 0
    | succ k =>
      rw [(faultFree_succ.1 hk).1] at h
      cases h
  machine := rfl
  fault_eq_none_iff := by simp
  fault_eq _ := h.symm
  displayChanged := by simp

theorem steps_append (h : m.step.fault = none) (r : RunResult) :
    ((RunResult.ofStep m.step).append r).steps = r.steps + 1 := by
  rw [RunResult.append, RunResult.ofStep, h]
  exact Nat.add_comm 1 r.steps

/-- A step in front of a run. -/
theorem Iterated.cons (h : m.step.fault = none) (hr : m.step.machine.Iterated n r) :
    m.Iterated (n + 1) ((RunResult.ofStep m.step).append r) where
  steps := by
    obtain ⟨⟨hle, hfree⟩, hgreatest⟩ := hr.steps
    rw [steps_append h]
    refine ⟨⟨Nat.succ_le_succ hle, faultFree_succ.2 ⟨h, hfree⟩⟩, ?_⟩
    rintro k ⟨hk, hkfree⟩
    cases k with
    | zero => exact Nat.zero_le _
    | succ k =>
      exact Nat.succ_le_succ
        (hgreatest ⟨Nat.le_of_succ_le_succ hk, (faultFree_succ.1 hkfree).2⟩)
  machine := by
    rw [steps_append h]
    exact hr.machine
  fault_eq_none_iff := by
    rw [steps_append h, Nat.add_right_cancel_iff]
    exact hr.fault_eq_none_iff
  fault_eq := by
    rw [steps_append h]
    intro hne
    exact hr.fault_eq fun heq => hne (congrArg (· + 1) heq)
  displayChanged := by
    have hor : ((RunResult.ofStep m.step).append r).displayChanged = true ↔
        m.step.displayChanged = true ∨ r.displayChanged = true := Bool.or_eq_true_iff
    rw [hor, steps_append h, hr.displayChanged]
    constructor
    · rintro (h0 | ⟨j, hj, hdraw⟩)
      · exact ⟨0, Nat.succ_pos _, h0⟩
      · exact ⟨j + 1, Nat.succ_lt_succ hj, hdraw⟩
    · rintro ⟨j, hj, hdraw⟩
      cases j with
      | zero => exact Or.inl hdraw
      | succ j => exact Or.inr ⟨j, Nat.lt_of_succ_lt_succ hj, hdraw⟩

/-- **A run is iterated steps.** -/
theorem iterated_run (m : Machine) (n : ℕ) : m.Iterated n (m.run n) := by
  induction n generalizing m with
  | zero => exact iterated_start m
  | succ n ih =>
    cases h : m.step.fault with
    | none => rw [run_succ_of_ok h]; exact (ih m.step.machine).cons h
    | some f => rw [run_succ_of_fault h]; exact iterated_of_fault h n

/-! ## Runs compose -/

/-- A run goes on where a part of it ended. -/
theorem run_add (m : Machine) (a b : ℕ) : m.run (a + b) = (m.run a).extend b := by
  have hextend : ∀ (a : ℕ) (r : RunResult), r.extend (a + b) = (r.extend a).extend b := by
    intro a
    induction a with
    | zero => intro r; rw [Nat.zero_add]; rfl
    | succ a ih =>
      intro r
      rw [Nat.succ_add]
      cases h : r.fault with
      | none => rw [RunResult.extend_succ h, RunResult.extend_succ h, ih]
      | some f => simp only [RunResult.extend_of_fault h]
  exact hextend a _

theorem run_add_of_ok {a : ℕ} (h : (m.run a).fault = none) (b : ℕ) :
    m.run (a + b) = (m.run a).append ((m.run a).machine.run b) := by
  rw [run_add, RunResult.extend_eq h]

theorem run_add_of_fault {a : ℕ} (h : (m.run a).fault = some f) (b : ℕ) :
    m.run (a + b) = m.run a := by
  rw [run_add, RunResult.extend_of_fault h]

/-- The machine of a run that faulted faults again. -/
theorem step_of_run_fault {a : ℕ} (h : (m.run a).fault = some f) :
    (m.run a).machine.step.fault = some f := by
  have hr := m.iterated_run a
  have hne : (m.run a).steps ≠ a := by
    rw [Ne, ← hr.fault_eq_none_iff, h]
    simp
  rw [hr.machine, ← hr.fault_eq hne, h]

theorem rerun_of_fault {a b : ℕ} (h : (m.run a).fault = some f) (hb : 0 < b) :
    (m.run a).machine.run b = ⟨(m.run a).machine, some f, 0, false⟩ := by
  obtain ⟨b, rfl⟩ := Nat.exists_eq_add_of_lt hb
  rw [Nat.zero_add]
  exact run_succ_of_fault (step_of_run_fault h) b

/-! ## Numbers of any sign -/

theorem runInt_eq {n : ℤ} (hlo : -2 ^ 31 ≤ n) (hhi : n < 2 ^ 31) :
    m.runInt n = .ok (m.run n.toNat) :=
  if_pos ((IntegerType.holds_signed 32 n).2 ⟨hlo, hhi⟩)

/-- **A run makes the steps that report no fault in a row**, up to the number asked for; if
    that is not positive it makes none.  From where it met a fault no further run gets on.
    A run of `a + b` steps is the one of `a` if that faults, and otherwise goes on from it. -/
theorem runInt_iterated (m : Machine) {n : ℤ} (hn : -2 ^ 31 ≤ n ∧ n < 2 ^ 31) :
    ∃ r, m.runInt n = .ok r ∧ m.Iterated (max n 0).toNat r ∧
      (∀ f (b : ℤ), r.fault = some f → 0 < b → b < 2 ^ 31 →
        r.machine.runInt b = .ok ⟨r.machine, some f, 0, false⟩) ∧
      ∀ a b : ℤ, 0 ≤ a → 0 ≤ b → a + b = n →
        ∃ ra, m.runInt a = .ok ra ∧
          (ra.fault ≠ none → r = ra) ∧
          (ra.fault = none → ∃ rb, ra.machine.runInt b = .ok rb ∧
            r = ⟨rb.machine, rb.fault, ra.steps + rb.steps,
              ra.displayChanged || rb.displayChanged⟩) := by
  obtain ⟨hlo, hhi⟩ := hn
  have hmax : (max n 0).toNat = n.toNat := by omega
  refine ⟨_, runInt_eq hlo hhi, hmax ▸ m.iterated_run n.toNat, ?_, ?_⟩
  · intro f b hf hb hbhi
    rw [runInt_eq (by omega) hbhi, rerun_of_fault hf (by omega)]
  · intro a b ha hb hab
    have hsum : n.toNat = a.toNat + b.toNat := by omega
    refine ⟨_, runInt_eq (by omega) (by omega), ?_, ?_⟩
    · intro hf
      obtain ⟨f, hf⟩ := Option.ne_none_iff_exists'.1 hf
      rw [hsum, run_add_of_fault hf]
    · intro hf
      refine ⟨_, runInt_eq (by omega) (by omega), ?_⟩
      rw [hsum, run_add_of_ok hf]
      rfl

/-- A program that clears the display and then returns without a call. -/
theorem runInt_iterated_return :
    ∃ start r, boot 0 [0x00, 0xE0, 0x00, 0xEE] (.int 3584) = .ok start ∧
      start.runInt 5 = .ok r ∧ start.Iterated 5 r ∧
      r.steps = 1 ∧ r.fault = some .stackUnderflow ∧ r.displayChanged = true := by
  have hboot : boot 0 [0x00, 0xE0, 0x00, 0xEE] (.int 3584) =
      .ok ((powerOn (.ofSeed 0)).withRom _) := rfl
  obtain ⟨r, hr, hiterated, -⟩ :=
    runInt_iterated ((powerOn (.ofSeed 0)).withRom [0x00, 0xE0, 0x00, 0xEE]) (n := 5) (by decide)
  have heq := Except.ok.inj (hr.symm.trans (runInt_eq (by decide) (by decide)))
  refine ⟨_, r, hboot, hr, hiterated, ?_, ?_, ?_⟩
  · rw [heq]; decide +kernel
  · rw [heq]; decide +kernel
  · rw [heq]; decide +kernel

end Machine

end Chip8
