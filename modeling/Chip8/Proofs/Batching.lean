/-
  Hosts — running a batch of instructions is running them one by one.

  A host hands its whole budget to one run, and after a fault what is left of it to
  the next.  `attempt` is what the host is meant to do with a budget of one, with
  every fault policy written out.

  * `handleFault_eq`: what a host does about a fault, policy by policy;
  * `attempts_succ`: a budget of `n + 1` is one attempt and a budget of `n`;
  * `runInstructions_one_by_one`: hence a batch is so many attempts, batches compose,
    and no attempt is lost or made twice.
-/
import Chip8.Proofs.Invariant

namespace Chip8

/-- How many faults were met. -/
def FaultCounts.total (c : FaultCounts) : ℕ := (Fault.all.map c.get).sum

theorem FaultCounts.total_count (c : FaultCounts) (f : Fault) :
    (c.count f).total = c.total + 1 := by
  cases f <;> simp [total, Fault.all, get, count] <;> omega

/-! ## Logging counts nothing but the fault -/

namespace Logger

variable (l : Logger)

theorem log_counts (level message : String) : (l.log level message).counts = l.counts := by
  unfold log
  split_ifs
  · rfl
  · rfl

theorem logFault_counts (f : Fault) (pc word : ℤ) (action : String) :
    (l.logFault f pc word action).counts = l.counts.count f :=
  log_counts _ _ _

theorem logReset_counts (seed : Value) : (l.logReset seed).counts = l.counts :=
  log_counts _ _ _

end Logger

namespace Host

/-! ## One attempt -/

/-- A host that has counted a fault and logged it with what is done about it. -/
def noted (h : Host) (f : Fault) (policy : FaultPolicy) : Host :=
  { h with
    lastFault := some f
    logger := h.logger.logFault f h.machine.pc.toNat h.currentWord.toNat policy.name }

/-- A host after a fault.  A skip changes the program counter and nothing else of the
    machine; outside memory it stops the host instead. -/
def faulted (h : Host) (f : Fault) : Host :=
  match h.config.policy with
  | .halt => { h.noted f .halt with halted := true }
  | .skip =>
    if h.machine.pc.toNat + 1 < 4096 then
      { h.noted f .skip with machine := { h.machine with pc := h.machine.pc + 2 } }
    else { h.noted f .halt with halted := true }
  | .reset =>
    { h.noted f .reset with
      machine := (Machine.powerOn (.ofSeed h.config.seed)).withRom h.rom
      instructionClock := h.instructionClock.reset
      timerClock := h.timerClock.reset
      halted := false
      logger := (h.noted f .reset).logger.logReset h.config.given.seed }

/-- One attempt at an instruction, and whether an instruction was performed that draws
    or clears. -/
def attempt (h : Host) : Host × Bool :=
  match h.machine.step.fault with
  | none =>
    ({ h with machine := h.machine.step.machine, instructionCount := h.instructionCount + 1 },
      h.machine.step.displayChanged)
  | some f => (h.faulted f, false)

/-- Attempts one by one, up to `n` or until the host is halted. -/
def oneByOne (h : Host) : ℕ → Host × Bool
  | 0 => (h, false)
  | n + 1 =>
    if h.halted then (h, false)
    else ((h.attempt.1.oneByOne n).1, h.attempt.2 || (h.attempt.1.oneByOne n).2)

/-- How many of `n` attempts are made. -/
def attemptsMade (h : Host) : ℕ → ℕ
  | 0 => 0
  | n + 1 => if h.halted then 0 else h.attempt.1.attemptsMade n + 1

variable {h : Host} {f : Fault}

/-- **What is done about a fault**, policy by policy. -/
theorem handleFault_eq (h : Host) (f : Fault) : h.handleFault f = h.faulted f := by
  unfold handleFault faulted action
  cases hp : h.config.policy with
  | halt => rfl
  | reset => rfl
  | skip =>
    by_cases hpc : h.machine.pc.toNat + 1 < 4096
    · rw [if_pos hpc, Machine.fetchOutOfBounds_eq_false_iff.2 hpc]
      rfl
    · have hout : h.machine.fetchOutOfBounds = true := by
        rw [← Bool.not_eq_false, Machine.fetchOutOfBounds_eq_false_iff]
        exact hpc
      rw [if_neg hpc, hout]
      rfl

/-! ## A batch is its attempts -/

theorem attempt_of_ok (hs : h.machine.step.fault = none) :
    h.attempt =
      ({ h with machine := h.machine.step.machine, instructionCount := h.instructionCount + 1 },
        h.machine.step.displayChanged) := by
  simp only [attempt, hs]

theorem attempt_of_fault (hs : h.machine.step.fault = some f) :
    h.attempt = (h.faulted f, false) := by
  simp only [attempt, hs]

theorem attempts_of_halted (hh : h.halted = true) (n : ℕ) : h.attempts n = (h, false) := by
  rw [attempts, dif_pos (Or.inr hh)]

/-- A batch that meets no fault is a run. -/
theorem attempts_of_ok (hh : h.halted = false) {n : ℕ} {r : RunResult}
    (hr : h.machine.run n = r) (hf : r.fault = none) :
    h.attempts n = (h.afterRun r, r.displayChanged) := by
  cases n with
  | zero => rw [attempts, dif_pos (Or.inl rfl), ← hr]; rfl
  | succ n => rw [attempts, dif_neg (by simp [hh]), hr]; simp only [hf]

/-- A batch that meets a fault goes on with what is left of it. -/
theorem attempts_of_fault (hh : h.halted = false) {n : ℕ} {r : RunResult}
    (hr : h.machine.run n = r) (hf : r.fault = some f) {rest : Host × Bool}
    (hrest : ((h.afterRun r).handleFault f).attempts (n - r.steps - 1) = rest) :
    h.attempts n = (rest.1, r.displayChanged || rest.2) := by
  cases n with
  | zero => rw [← hr] at hf; cases hf
  | succ n => rw [attempts, dif_neg (by simp [hh]), hr]; simp only [hf, hrest]

/-- **A batch is an attempt and a smaller batch.** -/
theorem attempts_succ (hh : h.halted = false) (n : ℕ) :
    h.attempts (n + 1) =
      ((h.attempt.1.attempts n).1, h.attempt.2 || (h.attempt.1.attempts n).2) := by
  cases hs : h.machine.step.fault with
  | some f =>
    rw [attempt_of_fault hs, ← handleFault_eq]
    exact attempts_of_fault hh (Machine.run_succ_of_fault hs n) rfl rfl
  | none =>
    -- the run of the batch is the step and the run of the smaller batch
    have hsteps : (RunResult.ofStep h.machine.step).steps = 1 := by
      rw [RunResult.ofStep, hs]
      rfl
    have hrun := Machine.run_succ_of_ok hs n
    rw [attempt_of_ok hs]
    set h' : Host := { h with
      machine := h.machine.step.machine
      instructionCount := h.instructionCount + 1 } with hh'
    have hafter : ∀ r, h.afterRun ((RunResult.ofStep h.machine.step).append r) = h'.afterRun r := by
      intro r
      rw [hh', afterRun, afterRun, RunResult.append, hsteps, Nat.add_assoc]
    cases hr : (h.machine.step.machine.run n).fault with
    | none =>
      rw [attempts_of_ok (h := h') hh rfl hr, attempts_of_ok hh hrun hr, hafter]
      rfl
    | some f =>
      have hleft : n + 1 - ((RunResult.ofStep h.machine.step).append (h'.machine.run n)).steps - 1 =
          n - (h'.machine.run n).steps - 1 := by
        show n + 1 - ((RunResult.ofStep h.machine.step).steps + (h'.machine.run n).steps) - 1 = _
        rw [hsteps]
        omega
      rw [attempts_of_fault (h := h') hh rfl hr rfl, attempts_of_fault hh hrun hr rfl, hafter,
        hleft]
      exact Prod.ext rfl (Bool.or_assoc _ _ _)

/-- **A batch is its attempts one by one.** -/
theorem attempts_eq_oneByOne (h : Host) (n : ℕ) : h.attempts n = h.oneByOne n := by
  induction n generalizing h with
  | zero => rw [attempts, dif_pos (Or.inl rfl), oneByOne]
  | succ n ih =>
    rw [oneByOne]
    cases hh : h.halted with
    | true => rw [attempts_of_halted hh, if_pos rfl]
    | false => rw [attempts_succ hh, ih, if_neg Bool.false_ne_true]

theorem oneByOne_of_halted (hh : h.halted = true) (n : ℕ) : h.oneByOne n = (h, false) := by
  rw [← attempts_eq_oneByOne, attempts_of_halted hh]

/-- Attempts go on where earlier ones ended. -/
theorem oneByOne_add (h : Host) (a b : ℕ) :
    h.oneByOne (a + b) =
      (((h.oneByOne a).1.oneByOne b).1, (h.oneByOne a).2 || ((h.oneByOne a).1.oneByOne b).2) := by
  induction a generalizing h with
  | zero => rw [Nat.zero_add, oneByOne, Bool.false_or]
  | succ a ih =>
    cases hh : h.halted with
    | true => simp only [oneByOne_of_halted hh, Bool.or_self]
    | false =>
      rw [Nat.succ_add, oneByOne, oneByOne, hh]
      simp only [Bool.false_eq_true, if_false, ih, Bool.or_assoc]

/-! ## No attempt is lost -/

/-- Instructions performed and faults met. -/
def attempted (h : Host) : ℕ := h.instructionCount + h.logger.counts.total

theorem faulted_attempted (h : Host) (f : Fault) : (h.faulted f).attempted = h.attempted + 1 := by
  have hnoted : ∀ p, (h.noted f p).attempted = h.attempted + 1 := by
    intro p
    rw [attempted, noted, Logger.logFault_counts, FaultCounts.total_count]
    rfl
  unfold faulted
  split
  · exact hnoted .halt
  · split_ifs
    · exact hnoted .skip
    · exact hnoted .halt
  · rw [attempted, Logger.logReset_counts]
    exact hnoted .reset

theorem attempt_attempted (h : Host) : h.attempt.1.attempted = h.attempted + 1 := by
  cases hs : h.machine.step.fault with
  | none =>
    rw [attempt_of_ok hs]
    exact Nat.add_right_comm _ _ _
  | some f =>
    rw [attempt_of_fault hs]
    exact faulted_attempted h f

/-- The counts say how many attempts were made. -/
theorem oneByOne_attempted (h : Host) (n : ℕ) :
    (h.oneByOne n).1.attempted = h.attempted + h.attemptsMade n := by
  induction n generalizing h with
  | zero => rfl
  | succ n ih =>
    rw [oneByOne, attemptsMade]
    split_ifs
    · rfl
    · rw [ih, attempt_attempted]
      omega

/-- All attempts are made unless the host is halted on the way. -/
theorem attemptsMade_eq (h : Host) (n : ℕ) :
    h.attemptsMade n ≤ n ∧ ((h.oneByOne n).1.halted = false → h.attemptsMade n = n) := by
  induction n generalizing h with
  | zero => exact ⟨le_refl 0, fun _ => rfl⟩
  | succ n ih =>
    obtain ⟨hle, heq⟩ := ih h.attempt.1
    rw [oneByOne, attemptsMade]
    split_ifs with hh
    · refine ⟨Nat.zero_le _, fun hn => ?_⟩
      rw [hh] at hn
      cases hn
    · exact ⟨Nat.succ_le_succ hle, fun hn => by rw [heq hn]⟩

/-! ## Batches of instructions -/

theorem runInstructions_eq (h : Host) {count : ℤ} (hc : count < 2 ^ 31) :
    h.runInstructions count = ((h.oneByOne count.toNat).1, .ok (h.oneByOne count.toNat).2) := by
  have hle : ¬ 0x80000000 ≤ count := by omega
  have hfits : (!h.halted && decide (0x80000000 ≤ count)) = false := by
    rw [decide_eq_false hle, Bool.and_false]
  rw [runInstructions, hfits, ← attempts_eq_oneByOne]
  rfl

/-- **Running a batch of instructions is running them one by one.**  The host
    afterwards and the result are those of the attempts, and two batches do what one
    of their sum does.  What the counts of instructions and of faults gain is the number
    of attempts made, which is the whole batch unless the host is halted. -/
theorem runInstructions_one_by_one (h : Host) {count : ℤ} (hc : count < 2 ^ 31) :
    h.runInstructions count = ((h.oneByOne count.toNat).1, .ok (h.oneByOne count.toNat).2) ∧
      (∀ a b : ℤ, 0 ≤ a → 0 ≤ b → a + b = count →
        ∃ h₁ h₂ c₁ c₂, h.runInstructions a = (h₁, .ok c₁) ∧
          h₁.runInstructions b = (h₂, .ok c₂) ∧
          h.runInstructions count = (h₂, .ok (c₁ || c₂))) ∧
      (h.runInstructions count).1.attempted = h.attempted + h.attemptsMade count.toNat ∧
      h.attemptsMade count.toNat ≤ count.toNat ∧
      ((h.runInstructions count).1.halted = false → h.attemptsMade count.toNat = count.toNat) := by
  have hrun := runInstructions_eq h hc
  obtain ⟨hle, hall⟩ := attemptsMade_eq h count.toNat
  refine ⟨hrun, ?_, ?_, hle, ?_⟩
  · intro a b ha hb hab
    have hsum : count.toNat = a.toNat + b.toNat := by omega
    refine ⟨_, _, _, _, runInstructions_eq h (by omega), runInstructions_eq _ (by omega), ?_⟩
    rw [hrun, hsum, oneByOne_add]
  · rw [hrun]
    exact oneByOne_attempted h count.toNat
  · rw [hrun]
    exact hall

/-- Three instructions of a program whose words are no instructions, all skipped. -/
theorem runInstructions_one_by_one_skip :
    ∃ config logger h, HostConfig.ofSettings { faultPolicy := .text "skip" } = .ok config ∧
      Logger.ofSettings {} .null = .ok logger ∧
      Host.create config [0xFF, 0xFF, 0xFF, 0xFF, 0xFF, 0xFF] logger .null = .ok h ∧
      h.runInstructions 3 = ((h.oneByOne 3).1, .ok (h.oneByOne 3).2) :=
  ⟨_, _, _, rfl, rfl, rfl, (runInstructions_one_by_one _ (by decide)).1⟩

end Host

end Chip8
