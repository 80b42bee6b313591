/-
  Hosts — a host that is halted stays at its fault.

  * `Stopped`: what is known of a host that a fault has stopped;
  * `attempt_stopped`, `kept_stopped`: every attempt that stops a host leaves it so, and
    every move keeps it so;
  * `perform_of_halted`: asked to run, a halted host does nothing but let its clocks go on;
  * `kept_record`: until the reset it stays halted, and so does its record;
  * `halted_until_reset`: hence what is known of a halted host in any sequence of requests.
-/
import Chip8.Proofs.HostOperations

namespace Chip8

theorem Machine.step_fault_receive (m : Machine) (s : Stimulus) :
    (m.receive s).step.fault = m.step.fault := by
  rcases m.next_cases with ⟨i, h⟩ | ⟨f, h⟩
  · rw [step_of_ok h, step_of_ok ((m.next_receive s).trans h)]
  · rw [step_of_error h, step_of_error ((m.next_receive s).trans h)]

/-- Outside memory there is but one fault. -/
theorem Machine.fault_of_outside {m : Machine} {f : Fault} (h : 4096 ≤ m.pc.toNat + 1)
    (hf : m.step.fault = some f) : f = .memoryOutOfBounds := by
  have hnext := next_of_fetchOutOfBounds (m := m) (by simpa [fetchOutOfBounds, Memory.size] using h)
  rw [step_of_error hnext] at hf
  exact (Option.some.inj hf).symm

/-- The requests that run instructions. -/
def HostOperation.runs : HostOperation → Bool
  | frame | advance _ | run _ => true
  | _ => false

namespace Host

/-- **What is known of a host that a fault has stopped.** -/
structure Stopped (h : Host) : Prop where
  policy_ne : h.config.policy ≠ .reset
  lastFault_ne : h.lastFault ≠ none
  /-- the machine still is at the fault -/
  lastFault_eq : h.lastFault = h.machine.step.fault
  /-- a host that skips is stopped outside memory only -/
  outside : h.config.policy = .skip →
    4096 ≤ h.machine.pc.toNat + 1 ∧ h.lastFault = some .memoryOutOfBounds

/-- Two hosts with the same counts, last fault and log. -/
structure SameRecord (g h : Host) : Prop where
  instructionCount : h.instructionCount = g.instructionCount
  frameCount : h.frameCount = g.frameCount
  lastFault : h.lastFault = g.lastFault
  logger : h.logger = g.logger

variable {g h : Host} {f : Fault}

/-! ## How a host is stopped -/

/-- An attempt that stops a host leaves the machine at the fault. -/
theorem attempt_stopped (hgo : h.halted = false) (hstop : h.attempt.1.halted = true) :
    h.attempt.1.Stopped := by
  have hstill : h.halted ≠ true := Bool.eq_false_iff.1 hgo
  cases hs : h.machine.step.fault with
  | none =>
    rw [attempt_of_ok hs] at hstop
    exact absurd hstop hstill
  | some f =>
    rw [attempt_of_fault hs] at hstop ⊢
    -- going on after the word and starting again do not stop a host that was not stopped
    rcases h.faulted_cases f with ⟨hp, hout, heq⟩ | ⟨-, -, heq⟩ | ⟨-, heq⟩
    · rw [heq]
      refine ⟨hp, Option.some_ne_none f, hs.symm, fun hskip => ⟨hout hskip, ?_⟩⟩
      exact congrArg some (Machine.fault_of_outside (hout hskip) hs)
    · rw [heq] at hstop
      exact absurd hstop hstill
    · rw [heq] at hstop
      cases hstop

theorem Stopped.receive (hh : h.Stopped) (s : Stimulus) : (h.receive s).Stopped where
  policy_ne := hh.policy_ne
  lastFault_ne := hh.lastFault_ne
  lastFault_eq := hh.lastFault_eq.trans (h.machine.step_fault_receive s).symm
  outside hp := by
    show 4096 ≤ (h.machine.receive s).pc.toNat + 1 ∧ _
    rw [Machine.receive_pc]
    exact hh.outside hp

theorem Stopped.pend (hh : h.Stopped) (p q : Timebase.Part Number) : (h.pend p q).Stopped where
  __ := hh

/-- Every move keeps it that a halted host is stopped. -/
theorem kept_stopped : Kept fun h => h.halted = true → h.Stopped where
  attempt := fun _ hgo => attempt_stopped hgo
  receive := fun hs s hh => (hs hh).receive s
  pend := fun hs p q hh => (hs hh).pend p q
  countFrames := fun _ hgo _ hh => absurd hh (Bool.eq_false_iff.1 hgo)

/-! ## What a halted host does -/

theorem runInstructions_of_halted (hh : h.halted = true) (count : ℤ) :
    h.runInstructions count = (h, .ok false) := by
  rw [runInstructions, hh, attempts_of_halted hh]
  rfl

theorem runThenFinish_of_halted (hh : h.halted = true) (count frames : ℤ) :
    h.runThenFinish count frames = (h, .ok false) := by
  simp only [runThenFinish, runInstructions_of_halted hh, finishFrames, hh, if_true]

/-- Nothing came of running but time that has passed on the clocks: nothing was drawn. -/
def Idle (h : Host) (r : Host × Except Error Bool) : Prop :=
  (∃ p q, r.1 = h.pend p q) ∧ ∀ changed, r.2 = .ok changed → changed = false

theorem idle_ok (h : Host) : h.Idle (h, .ok false) :=
  ⟨⟨_, _, rfl⟩, fun _ hok => (Except.ok.inj hok).symm⟩

theorem idle_error (h : Host) (e : Error) : h.Idle (h, .error e) :=
  ⟨⟨_, _, rfl⟩, nofun⟩

theorem Idle.pend {p q : Timebase.Part Number} {r : Host × Except Error Bool}
    (hr : (h.pend p q).Idle r) : h.Idle r := by
  obtain ⟨⟨p', q', heq⟩, hfalse⟩ := hr
  exact ⟨⟨p', q', heq⟩, hfalse⟩

theorem idle_advance (hh : h.halted = true) (elapsed : Number) : h.Idle (h.advance elapsed) := by
  rw [advance_eq]
  split
  · exact (idle_error _ _).pend
  · split
    · exact (idle_error _ _).pend
    · have hpend : ∀ p q, (h.pend p q).halted = true := fun _ _ => hh
      rw [runThenFinish_of_halted (hpend _ _)]
      exact (idle_ok _).pend

theorem idle_runValue (hh : h.halted = true) (count : Value) : h.Idle (h.runValue count) := by
  unfold runValue
  split
  · exact h.idle_error _
  · rw [runInstructions_of_halted hh]
    exact h.idle_ok
  · rw [attempts_of_halted hh]
    exact h.idle_ok

/-- **Asked to run, a halted host** lets its clocks go on and does nothing else. -/
theorem perform_of_halted (hh : h.halted = true) {o : HostOperation} (ho : o.runs = true) :
    ∃ r, h.perform o = answered r ∧ h.Idle r := by
  cases o with
  | frame =>
    refine ⟨_, rfl, ?_⟩
    rw [runFrame_eq, runThenFinish_of_halted hh]
    exact h.idle_ok
  | advance elapsed =>
    refine ⟨_, rfl, ?_⟩
    unfold advanceValue
    split
    · exact h.idle_error _
    · exact idle_advance hh _
  | run count => exact ⟨_, rfl, idle_runValue hh count⟩
  | tick | keys | acknowledge | reset => cases ho

/-- It changes neither the machine nor the record, and if it answers, nothing was drawn. -/
theorem perform_runs_of_halted (hh : h.halted = true) {o : HostOperation} (ho : o.runs = true) :
    (h.perform o).1.machine = h.machine ∧ SameRecord h (h.perform o).1 ∧
      ∀ changed, (h.perform o).2 = .ok changed → changed = some false := by
  obtain ⟨⟨k, r⟩, hperform, ⟨p, q, rfl⟩, hfalse⟩ := perform_of_halted hh ho
  rw [hperform]
  refine ⟨rfl, ⟨rfl, rfl, rfl, rfl⟩, fun changed hanswer => ?_⟩
  cases r with
  | error e => cases hanswer
  | ok drawn => rw [← Except.ok.inj hanswer, hfalse drawn rfl]

theorem perform_frame_of_halted (hh : h.halted = true) :
    h.perform .frame = (h, .ok (some false)) := by
  show answered h.runFrame = _
  rw [runFrame_eq, runThenFinish_of_halted hh]
  rfl

theorem perform_run_of_halted (hh : h.halted = true) (n : ℤ) :
    h.perform (.run (.int n)) = (h, .ok (some false)) := by
  show answered (h.runValue _) = _
  rw [runValue_int, runInstructions_of_halted hh]
  rfl

/-- Every move keeps a host halted that is so, and what it has counted and logged. -/
theorem kept_record (g : Host) : Kept fun h => h.halted = true ∧ SameRecord g h where
  attempt := fun ⟨hh, _⟩ hgo => absurd hh (Bool.eq_false_iff.1 hgo)
  receive := fun ⟨hh, hs⟩ _ => ⟨hh, { hs with }⟩
  pend := fun ⟨hh, hs⟩ _ _ => ⟨hh, { hs with }⟩
  countFrames := fun ⟨hh, _⟩ hgo => absurd hh (Bool.eq_false_iff.1 hgo)

/-- **A host that is halted** after any sequence of requests has met a fault, at which its
    machine still is, and under a policy that skips it is outside memory; under the policy
    that resets no host is ever halted.  Until the next reset it stays halted, its record
    stays as it is, and asked to run it changes neither the machine nor the record and
    answers that nothing was drawn, if it answers. -/
theorem halted_until_reset {config : HostConfig} {rom : Rom} {logger : Logger} {name : Value}
    {start : Host} (hstart : create config rom logger name = .ok start)
    (ops : List HostOperation) :
    let h := start.performAll ops
    h.config = config ∧ (config.policy = .reset → h.halted = false) ∧
      (h.halted = true → h.Stopped ∧
        ∀ later, .reset ∉ later →
          let h' := h.performAll later
          h'.halted = true ∧ SameRecord h h' ∧
            (∀ o, o.runs = true →
              (h'.perform o).1.machine = h'.machine ∧ SameRecord h' (h'.perform o).1 ∧
                ∀ changed, (h'.perform o).2 = .ok changed → changed = some false) ∧
            h'.perform .frame = (h', .ok (some false)) ∧
            ∀ n : ℤ, h'.perform (.run (.int n)) = (h', .ok (some false))) := by
  have hgo : start.halted = false := by rw [create_eq hstart]
  have hconfig : (start.performAll ops).config = config :=
    (start.setup_performAll ops).config.trans (by rw [create_eq hstart])
  have hstopped : (start.performAll ops).halted = true → (start.performAll ops).Stopped :=
    kept_stopped.performAll (fun hh => absurd hh (Bool.eq_false_iff.1 hgo)) ops
      fun _ _ _ hh => absurd hh Bool.false_ne_true
  refine ⟨hconfig, ?_, fun hh => ⟨hstopped hh, fun later hlater => ?_⟩⟩
  · intro hp
    rw [Bool.eq_false_iff]
    exact fun hh => (hstopped hh).policy_ne (hconfig ▸ hp)
  · obtain ⟨hh', hrecord⟩ := (kept_record (start.performAll ops)).performAll
      ⟨hh, ⟨rfl, rfl, rfl, rfl⟩⟩ later fun hmem => absurd hmem hlater
    exact ⟨hh', hrecord, fun o => perform_runs_of_halted hh', perform_frame_of_halted hh',
      perform_run_of_halted hh'⟩

/-- A program without an instruction halts at its first word, and stays there. -/
theorem halted_until_reset_at_once :
    ∃ config logger start, HostConfig.ofSettings {} = .ok config ∧
      Logger.ofSettings {} .null = .ok logger ∧ create config [] logger .null = .ok start ∧
      (start.performAll [.run (.int 1)]).halted = true ∧
      (start.performAll [.run (.int 1)]).Stopped ∧
      ((start.performAll [.run (.int 1)]).performAll [.frame, .keys .null]).halted = true := by
  obtain ⟨config, logger, start, hconfig, hlogger, hstart, hhalted⟩ :
      ∃ config logger start, HostConfig.ofSettings {} = .ok config ∧
        Logger.ofSettings {} .null = .ok logger ∧ create config [] logger .null = .ok start ∧
        (start.performAll [.run (.int 1)]).halted = true := by
    refine ⟨_, _, _, rfl, rfl, rfl, ?_⟩
    show (runInstructions _ 1).1.halted = true
    rw [runInstructions_eq _ (by decide)]
    decide +kernel
  obtain ⟨-, -, hstop⟩ := halted_until_reset hstart [.run (.int 1)]
  obtain ⟨hstopped, hlater⟩ := hstop hhalted
  obtain ⟨hstays, -⟩ := hlater [.frame, .keys .null] (by simp)
  exact ⟨config, logger, start, hconfig, hlogger, hstart, hhalted, hstopped, hstays⟩

end Host

end Chip8
