/-
  Replay — after a reset everything happens again.

  A reset keeps nothing of a machine but the key it was created with, and nothing of a
  host but its configuration, its program and what it has counted and logged.

  * `performAll_seedKey`: no operation but a restart touches the key of the creation;
  * `reset_performAll`: so a reset leads back to the machine that was created;
  * `Ahead`: two hosts of which one has counted more and that cannot be told apart otherwise;
  * `ahead_lockstep`: every move keeps by how much it is ahead;
  * `replay_after_reset`: hence a machine and a host that are reset go through the same
    again.
-/
import Chip8.Proofs.HostOperations

namespace Chip8

/-! ## Machines -/

/-- What is seen of a machine when something is done to it. -/
structure Seen where
  /-- the machine afterwards -/
  machine : Machine
  fault : Option Fault
  /-- the random byte that was drawn -/
  drawn : Option UInt8

namespace Machine

variable {m : Machine}

/-- The random byte that a step draws. -/
def drawn (m : Machine) : Option UInt8 :=
  match m.next with
  | .ok (.random _ _) => some m.rng.byte
  | _ => none

/-- What is seen of a step. -/
def seenAt (m : Machine) : Seen := ⟨m.step.machine, m.step.fault, m.drawn⟩

/-- What is seen of a run of `n` steps, step by step up to the first fault. -/
def seenIn (m : Machine) : ℕ → List Seen
  | 0 => []
  | n + 1 => m.seenAt :: if m.step.fault.isSome then [] else m.step.machine.seenIn n

/-- What is seen of an operation. -/
def seenOf (m : Machine) : Operation → List Seen
  | .step => [m.seenAt]
  | .run n => if IntegerType.int32.holds n then m.seenIn n.toNat else []
  | o => [⟨m.perform o, none, none⟩]

/-- What is seen of several operations. -/
def transcript (m : Machine) : List Operation → List Seen
  | [] => []
  | o :: ops => m.seenOf o ++ (m.perform o).transcript ops

theorem after_seedKey (m : Machine) (n : ℕ) : (m.after n).seedKey = m.seedKey := by
  induction n generalizing m with
  | zero => rfl
  | succ n ih => exact (ih m.step.machine).trans m.step_seedKey

/-- Only a restart may give a machine another key, which is that of the seed in its
    configuration. -/
theorem perform_seedKey {key : Key} (hm : m.seedKey = key) {o : Operation}
    (ho : ∀ config rom, o = .restart config rom → .ofSeed config.seed = key) :
    (m.perform o).seedKey = key := by
  cases hr : o.restarts with
  | true =>
    cases o with
    | reset =>
      rw [perform, reset, powerOn]
      exact hm
    | restart config rom => exact ho config rom rfl
    | _ => cases hr
  | false =>
    rcases m.perform_cases hr with
      ⟨n, hmachine, -⟩ | ⟨-, ⟨s, rfl⟩ | ⟨memory, pc, hmachine⟩⟩
    · rw [hmachine]
      exact (m.after_seedKey n).trans hm
    · have hkey : (m.receive s).seedKey = m.seedKey := by rw [receive_eq]
      exact hkey.trans hm
    · rw [hmachine]
      exact hm

theorem performAll_seedKey {key : Key} (hm : m.seedKey = key) {ops : List Operation}
    (hops : ∀ config rom, .restart config rom ∈ ops → .ofSeed config.seed = key) :
    (m.performAll ops).seedKey = key := by
  induction ops generalizing m with
  | nil => exact hm
  | cons o ops ih =>
    have ho : (m.perform o).seedKey = key :=
      perform_seedKey hm fun config rom heq => hops config rom (heq ▸ List.mem_cons_self)
    exact ih ho fun config rom hmem => hops config rom (List.mem_cons_of_mem o hmem)

/-- **A reset leads back to the machine that was created**, whatever was done to it. -/
theorem reset_performAll {seed : ℤ} {start : Machine} (hstart : ofSeed seed = .ok start)
    {ops : List Operation} (hops : ∀ config rom, .restart config rom ∉ ops) :
    (start.performAll ops).reset = start := by
  have hkey : start = powerOn (.ofSeed seed) := by
    unfold ofSeed at hstart
    split_ifs at hstart
    exact (Except.ok.inj hstart).symm
  rw [reset, performAll_seedKey rfl fun config rom hmem => absurd hmem (hops config rom), hkey]
  rfl

end Machine

/-! ## Hosts -/

/-- How many more instructions, frames and faults one host has counted than another. -/
structure Lead where
  instructions : ℤ
  frames : ℤ
  faults : Fault → ℤ

namespace Host

/-- **Two hosts that are alike**, of which the second is ahead in its counts. -/
structure Ahead (d : Lead) (g h : Host) : Prop extends g.Alike h where
  instructions : (h.instructionCount : ℤ) = g.instructionCount + d.instructions
  frames : (h.frameCount : ℤ) = g.frameCount + d.frames
  faults : ∀ f, (h.logger.counts.get f : ℤ) = g.logger.counts.get f + d.faults f

variable {d : Lead} {g h : Host}

theorem Ahead.faulted (ha : Ahead d g h) (f : Fault) : Ahead d (g.faulted f) (h.faulted f) := by
  obtain ⟨hginstr, hgframes, hgcounts⟩ := g.faulted_counts f
  obtain ⟨hhinstr, hhframes, hhcounts⟩ := h.faulted_counts f
  exact
    { toAlike := ha.toAlike.faulted f
      instructions := by rw [hginstr, hhinstr]; exact ha.instructions
      frames := by rw [hgframes, hhframes]; exact ha.frames
      faults := fun k => by
        have := ha.faults k
        rw [hgcounts, hhcounts, FaultCounts.get_count, FaultCounts.get_count]
        push_cast
        omega }

theorem Ahead.attempt (ha : Ahead d g h) : Ahead d g.attempt.1 h.attempt.1 := by
  cases hs : g.machine.step.fault with
  | none =>
    have halike := ha.toAlike.attempt
    rw [attempt_of_ok hs, attempt_of_ok (ha.machine ▸ hs)] at halike ⊢
    exact
      { toAlike := halike
        instructions := by
          have := ha.instructions
          push_cast
          omega
        frames := ha.frames
        faults := ha.faults }
  | some f =>
    rw [attempt_of_fault hs, attempt_of_fault (ha.machine ▸ hs)]
    exact ha.faulted f

theorem Ahead.reset (ha : Ahead d g h) : Ahead d g.reset h.reset where
  toAlike := ha.toAlike.reset
  instructions := ha.instructions
  frames := ha.frames
  faults f := by
    show ((h.logger.logReset _).counts.get f : ℤ) = (g.logger.logReset _).counts.get f + _
    rw [Logger.logReset_counts, Logger.logReset_counts]
    exact ha.faults f

/-- **Every move keeps the lead** of one host over another. -/
theorem ahead_lockstep (d : Lead) : Lockstep (Ahead d) where
  alike := fun ha => ha.toAlike
  attempt := fun ha _ => ha.attempt
  receive := fun ha s => { ha with toAlike := ha.toAlike.receive s }
  pend := fun ha p q => { ha with toAlike := ha.toAlike.pend p q }
  countFrames := fun {g h} ha _ n =>
    { ha with
      toAlike := ha.toAlike.countFrames n
      frames := by
        have := ha.frames
        show ((h.frameCount + n : ℕ) : ℤ) = (g.frameCount + n : ℕ) + d.frames
        push_cast
        omega }

/-- A host that is reset is ahead of a new one by what it has counted. -/
theorem ahead_reset {config : HostConfig} {rom : Rom} {logger logger' : Logger}
    {name name' : Value} {fresh used : Host} (hfresh : create config rom logger name = .ok fresh)
    (hused : create config rom logger' name' = .ok used) (before : List HostOperation) :
    ∃ d, Ahead d fresh (used.performAll before).reset := by
  -- of what came before the reset only the setup matters, which is that of the new host
  have hsetup := used.setup_performAll before
  generalize used.performAll before = h at hsetup
  rw [create_eq hused] at hsetup
  refine ⟨⟨h.instructionCount - fresh.instructionCount, h.frameCount - fresh.frameCount,
    fun f => h.reset.logger.counts.get f - fresh.logger.counts.get f⟩, ?_⟩
  exact
    { config := by rw [create_eq hfresh]; exact hsetup.config
      rom := by rw [create_eq hfresh]; exact hsetup.rom
      machine := by rw [create_eq hfresh]; exact congrArg₂ boot hsetup.config hsetup.rom
      instructionClock := by
        rw [create_eq hfresh]
        exact congrArg Clock.start hsetup.instructionFrequency
      timerClock := by
        rw [create_eq hfresh]
        exact congrArg Clock.start hsetup.timerFrequency
      halted := by rw [create_eq hfresh]; rfl
      lastFault := by rw [create_eq hfresh]; rfl
      instructions := (add_sub_cancel _ _).symm
      frames := (add_sub_cancel _ _).symm
      faults := fun f => (add_sub_cancel _ _).symm }

end Host

/-- **After a reset everything happens again.**  A machine that is reset is the one that was
    created from the seed, whatever was done to it in between, and the same program and the
    same operations show the same machines, faults and random bytes.  A host that is reset
    goes, whatever is asked of it from then on, through the same as a new host for the same
    program, and gives the same answers; it is ahead in its counts, always by as much. -/
theorem replay_after_reset :
    (∀ seed start, Machine.ofSeed seed = .ok start →
      ∀ ops, (∀ config rom, .restart config rom ∉ ops) →
        (start.performAll ops).reset = start ∧
          ∀ again, (start.performAll ops).reset.transcript again = start.transcript again) ∧
    (∀ config rom logger logger' name name' fresh used,
      Host.create config rom logger name = .ok fresh →
      Host.create config rom logger' name' = .ok used →
        ∀ before, ∃ d, ∀ after,
          Host.Ahead d (fresh.performAll after) (used.performAll (before ++ .reset :: after)) ∧
            fresh.answers after = (used.performAll (before ++ [.reset])).answers after) := by
  refine ⟨fun seed start hstart ops hops => ?_, ?_⟩
  · have hreset := Machine.reset_performAll hstart hops
    exact ⟨hreset, fun again => by rw [hreset]⟩
  · intro config rom logger logger' name name' fresh used hfresh hused before
    obtain ⟨d, hd⟩ := Host.ahead_reset hfresh hused before
    refine ⟨d, fun after => ?_⟩
    rw [Host.performAll_append, Host.performAll_append]
    exact (Host.ahead_lockstep d).performAll hd after fun _ _ _ ha => ha.reset

/-- A program that draws random bytes, on a machine and on a host that halts at the end. -/
theorem replay_after_reset_random :
    (∃ start, Machine.ofSeed 7 = .ok start ∧
      (start.performAll [.load [0xC0, 0xFF, 0xC1, 0xFF] .null, .run 2]).reset = start) ∧
    ∃ config logger fresh, HostConfig.ofSettings {} = .ok config ∧
      Logger.ofSettings {} .null = .ok logger ∧
      Host.create config [0xC0, 0xFF, 0xC1, 0xFF] logger .null = .ok fresh ∧
      (fresh.performAll [.frame]).machine = (fresh.performAll [.frame, .reset, .frame]).machine := by
  refine ⟨⟨_, rfl, ?_⟩, ?_⟩
  · exact (replay_after_reset.1 7 _ rfl _ (by simp)).1
  · obtain ⟨config, logger, fresh, hconfig, hlogger, hfresh⟩ :
        ∃ config logger fresh, HostConfig.ofSettings {} = .ok config ∧
          Logger.ofSettings {} .null = .ok logger ∧
          Host.create config [0xC0, 0xFF, 0xC1, 0xFF] logger .null = .ok fresh :=
      ⟨_, _, _, rfl, rfl, rfl⟩
    obtain ⟨d, hd⟩ := replay_after_reset.2 _ _ _ _ _ _ _ _ hfresh hfresh [.frame]
    exact ⟨config, logger, fresh, hconfig, hlogger, hfresh, (hd [.frame]).1.machine.symm⟩

end Chip8
