/-
  Hosts — what requests do to the machine.

  Whatever is asked of a host reaches its machine as operations: steps, timer ticks, the
  keypad, and what is done about faults.  `operations` lists them in order, for each
  request, and a host is followed through them.

  * `attemptOperations`, `batchOperations`: what an attempt and a batch do, policy by policy;
  * `operations`, `operationsAll`: what a request and several requests do;
  * `Through`: a host that goes through operations, with what is known of these;
  * `Through.trans`: going on from there;
  * `through_performAll`: requests lead a host through their operations, hence its machine
    is the one from before with these done to it (`machine_performAll`), and stays sound
    (`sound_performAll`).
-/
import Chip8.Proofs.HostOperations

namespace Chip8

namespace Host

/-! ## The operations -/

/-- What is done to the machine about a fault. -/
def reaction (h : Host) : List Operation :=
  match h.action with
  | .halt => []
  | .skip => [.skipWord]
  | .reset => [.restart h.config h.rom]

/-- What an attempt does to the machine. -/
def attemptOperations (h : Host) : List Operation :=
  .step :: if h.machine.step.fault.isSome then h.reaction else []

/-- What attempts one by one do to the machine. -/
def batchOperations (h : Host) : ℕ → List Operation
  | 0 => []
  | n + 1 => if h.halted then [] else h.attemptOperations ++ h.attempt.1.batchOperations n

/-- What a number of instructions does to the machine. -/
def instructionOperations (h : Host) (count : ℤ) : List Operation :=
  if !h.halted && 0x80000000 ≤ count then [] else h.batchOperations count.toNat

/-- Timer ticks. -/
def ticks (n : ℤ) : List Operation := List.replicate n.toNat (.stimulus .tick)

/-- What frames that are finished do to the machine. -/
def frameOperations (h : Host) (frames : ℤ) : List Operation :=
  if h.halted then [] else ticks frames

/-- What instructions and the frames after them do to the machine. -/
def runThenFinishOperations (h : Host) (count frames : ℤ) : List Operation :=
  h.instructionOperations count ++
    match h.runInstructions count with
    | (h, .ok _) => h.frameOperations frames
    | (_, .error _) => []

/-- What the time that elapses does to the machine: nothing if one of the clocks refuses it. -/
def advanceOperations (h : Host) (elapsed : Number) : List Operation :=
  match (h.instructionClock.advance elapsed).2, (h.timerClock.advance elapsed).2 with
  | .ok count, .ok ticks =>
    (h.pend (h.instructionClock.advance elapsed).1.pending
      (h.timerClock.advance elapsed).1.pending).runThenFinishOperations count ticks
  | _, _ => []

/-- **What a request does to the machine.** -/
def operations (h : Host) : HostOperation → List Operation
  | .frame => h.runThenFinishOperations h.config.instructionsPerFrame 1
  | .advance elapsed =>
    match elapsed.compared "<" with
    | .error _ => []
    | .ok n => h.advanceOperations n
  | .run count =>
    match count.compared ">" with
    | .error _ => []
    | .ok (.int n) => h.instructionOperations n
    | .ok (.real x) => h.batchOperations (Number.stepsBelow x)
  | .tick n =>
    match n.integer .length with
    | .error _ => []
    | .ok n => ticks n
  | .keys s => [.stimulus (.keypad s)]
  | .acknowledge => [.stimulus .acknowledge]
  | .reset => [.restart h.config h.rom]

/-- What several requests do to the machine. -/
def operationsAll (h : Host) : List HostOperation → List Operation
  | [] => []
  | o :: requests => h.operations o ++ (h.perform o).1.operationsAll requests

/-! ## What is performed by them -/

/-- Whatever is done about a fault performs no instruction. -/
theorem performed_reaction (h : Host) (m : Machine) : m.performed h.reaction = [] := by
  refine Machine.performed_eq_nil (fun o ho m => ?_) m
  unfold reaction at ho
  split at ho
  · cases ho
  · cases List.mem_singleton.1 ho
    rfl
  · cases List.mem_singleton.1 ho
    rfl

theorem performed_ticks (n : ℤ) (m : Machine) : m.performed (ticks n) = [] := by
  refine Machine.performed_eq_nil (fun o ho m => ?_) m
  cases List.eq_of_mem_replicate ho
  rfl

/-- An attempt performs what a step does. -/
theorem performed_attempt (h : Host) :
    h.machine.performed h.attemptOperations = h.machine.executed := by
  have hreaction : ∀ m : Machine, m.performed
      (if h.machine.step.fault.isSome then h.reaction else []) = [] := by
    intro m
    split_ifs
    · exact h.performed_reaction m
    · rfl
  rw [attemptOperations, Machine.performed, hreaction, List.append_nil]
  rfl

/-- Frames perform nothing beyond their instructions. -/
theorem performed_runThenFinish (h : Host) (count frames : ℤ) :
    h.machine.performed (h.runThenFinishOperations count frames) =
      h.machine.performed (h.instructionOperations count) := by
  have hframes : ∀ (h : Host) (m : Machine), m.performed (h.frameOperations frames) = [] := by
    intro h m
    unfold frameOperations
    split_ifs
    · rfl
    · exact performed_ticks frames m
  rw [runThenFinishOperations, Machine.performed_append]
  generalize h.runInstructions count = x
  obtain ⟨h', r⟩ := x
  cases r with
  | ok changed => rw [hframes, List.append_nil]
  | error e => rw [Machine.performed, List.append_nil]

/-! ## Going through operations -/

/-- How many faults were met. -/
def faultsMet (h : Host) : ℕ := h.logger.counts.total

/-- **A host goes through operations** when requests are made.  It only ever starts its own
    program again, which it does when asked to or, under the policy of resetting, about
    a fault; and only the request that says so tells its machine that the display was shown. -/
structure Through (h : Host) (requests : List HostOperation) (ops : List Operation)
    (h' : Host) : Prop where
  machine : h'.machine = h.machine.performAll ops
  setup : SameSetup h h'
  faultsMet : h.faultsMet ≤ h'.faultsMet
  own : ∀ config rom, .restart config rom ∈ ops → config = h.config ∧ rom = h.rom
  restarted : ops.any Operation.restarts ↔
    .reset ∈ requests ∨ h.config.policy = .reset ∧ h.faultsMet < h'.faultsMet
  acknowledged : .stimulus .acknowledge ∈ ops → .acknowledge ∈ requests

namespace Through

variable {h h' h'' : Host} {requests requests' : List HostOperation} {ops ops' : List Operation}

/-- A host that stays as it is in what operations could change. -/
theorem still (hmachine : h'.machine = h.machine) (hsetup : SameSetup h h')
    (hfaults : h'.faultsMet = h.faultsMet) : Through h [] [] h' where
  machine := hmachine
  setup := hsetup
  faultsMet := hfaults.ge
  own := nofun
  restarted := by simp [hfaults]
  acknowledged := nofun

theorem refl (h : Host) : Through h [] [] h := still rfl ⟨rfl, rfl, rfl, rfl⟩ rfl

theorem trans (h₁ : Through h requests ops h') (h₂ : Through h' requests' ops' h'') :
    Through h (requests ++ requests') (ops ++ ops') h'' where
  machine := by rw [h₂.machine, h₁.machine, Machine.performAll, Machine.performAll,
    Machine.performAll, List.foldl_append]
  setup := h₁.setup.trans h₂.setup
  faultsMet := h₁.faultsMet.trans h₂.faultsMet
  own := by
    intro config rom hmem
    rcases List.mem_append.1 hmem with hmem | hmem
    · exact h₁.own config rom hmem
    · rw [← h₁.setup.config, ← h₁.setup.rom]
      exact h₂.own config rom hmem
  restarted := by
    have hle := h₁.faultsMet
    have hle' := h₂.faultsMet
    have hmore : h.faultsMet < h''.faultsMet ↔
        h.faultsMet < h'.faultsMet ∨ h'.faultsMet < h''.faultsMet := by omega
    rw [List.any_append, Bool.or_eq_true, h₁.restarted, h₂.restarted, h₁.setup.config, hmore,
      List.mem_append]
    tauto
  acknowledged := by
    intro hmem
    rcases List.mem_append.1 hmem with hmem | hmem
    · exact List.mem_append_left _ (h₁.acknowledged hmem)
    · exact List.mem_append_right _ (h₂.acknowledged hmem)

/-- What a host goes through unasked it may go through for any request but the reset. -/
theorem asked (ht : Through h [] ops h') {o : HostOperation} (ho : o ≠ .reset) :
    Through h [o] ops h' where
  machine := ht.machine
  setup := ht.setup
  faultsMet := ht.faultsMet
  own := ht.own
  restarted := by
    rw [ht.restarted]
    simp [ho.symm]
  acknowledged := fun hmem => nomatch ht.acknowledged hmem

end Through

/-! ## Attempts -/

variable {h : Host} {f : Fault}

theorem faultsMet_faulted (h : Host) (f : Fault) : (h.faulted f).faultsMet = h.faultsMet + 1 := by
  rw [faultsMet, (h.faulted_counts f).2.2, FaultCounts.total_count, faultsMet]

theorem reaction_of_reset (hp : h.config.policy = .reset) :
    h.reaction = [.restart h.config h.rom] := by
  rw [reaction, action, hp]

theorem reaction_of_skip (hp : h.config.policy = .skip) (hpc : h.machine.pc.toNat + 1 < 4096) :
    h.reaction = [.skipWord] := by
  rw [reaction, action, hp, Machine.fetchOutOfBounds_eq_false_iff.2 hpc]
  rfl

theorem reaction_of_halt (hp : h.config.policy ≠ .reset)
    (hpc : h.config.policy = .skip → 4096 ≤ h.machine.pc.toNat + 1) : h.reaction = [] := by
  rw [reaction, action]
  cases hpolicy : h.config.policy with
  | halt => rfl
  | reset => exact absurd hpolicy hp
  | skip =>
    have hout : h.machine.fetchOutOfBounds = true := by
      rw [← Bool.not_eq_false, Machine.fetchOutOfBounds_eq_false_iff]
      exact Nat.not_lt.2 (hpc hpolicy)
    simp only [hout, if_true]

/-- A step that faults and the reaction to it. -/
theorem through_faulted (hs : h.machine.step.fault = some f) :
    Through h [] (.step :: h.reaction) (h.faulted f) := by
  have hstep : h.machine.step.machine = h.machine := by
    rw [Machine.step_of_error (Machine.step_fault_eq_some_iff.1 hs)]
  have hmore := h.faultsMet_faulted f
  have hsetup : SameSetup h (h.faulted f) := by
    have := setup_attempt h
    rwa [attempt_of_fault hs] at this
  rcases h.faulted_cases f with ⟨hp, hpc, heq⟩ | ⟨hp, hpc, heq⟩ | ⟨hp, heq⟩
  · rw [reaction_of_halt hp hpc]
    exact
      { machine := by rw [heq]; exact hstep.symm
        setup := hsetup
        faultsMet := by omega
        own := by simp
        restarted := by simp [Operation.restarts, hp]
        acknowledged := by simp }
  · rw [reaction_of_skip hp hpc]
    exact
      { machine := by
          show (h.faulted f).machine = h.machine.step.machine.skipWord
          rw [heq, hstep, Machine.skipWord, Machine.fetchOutOfBounds_eq_false_iff.2 hpc]
          rfl
        setup := hsetup
        faultsMet := by omega
        own := by simp
        restarted := by simp [Operation.restarts, hp]
        acknowledged := by simp }
  · rw [reaction_of_reset hp]
    exact
      { machine := by rw [heq]; rfl
        setup := hsetup
        faultsMet := by omega
        own := by simp
        restarted := by simp [Operation.restarts, hp, hmore]
        acknowledged := by simp }

theorem through_attempt (h : Host) : Through h [] h.attemptOperations h.attempt.1 := by
  unfold attemptOperations
  cases hs : h.machine.step.fault with
  | some f =>
    rw [attempt_of_fault hs]
    exact through_faulted hs
  | none =>
    rw [attempt_of_ok hs]
    exact
      { machine := rfl
        setup := ⟨rfl, rfl, rfl, rfl⟩
        faultsMet := le_refl _
        own := by simp
        restarted := by simp [Operation.restarts, Host.faultsMet]
        acknowledged := by simp }

theorem through_oneByOne (h : Host) (n : ℕ) :
    Through h [] (h.batchOperations n) (h.oneByOne n).1 := by
  induction n generalizing h with
  | zero => exact .refl h
  | succ n ih =>
    rw [batchOperations, oneByOne]
    split_ifs
    · exact .refl h
    · exact h.through_attempt.trans (ih h.attempt.1)

/-! ## Requests -/

theorem through_runInstructions (h : Host) (count : ℤ) :
    Through h [] (h.instructionOperations count) (h.runInstructions count).1 := by
  unfold instructionOperations runInstructions
  split_ifs
  · exact .refl h
  · rw [attempts_eq_oneByOne]
    exact h.through_oneByOne count.toNat

theorem through_receive (h : Host) {s : Stimulus} (hs : s ≠ .acknowledge) :
    Through h [] [.stimulus s] (h.receive s) where
  machine := rfl
  setup := ⟨rfl, rfl, rfl, rfl⟩
  faultsMet := le_refl _
  own := by simp
  restarted := by simp [Operation.restarts, Host.faultsMet, receive]
  acknowledged := by simp [hs.symm]

theorem through_tickTimers (h : Host) (n : ℤ) : Through h [] (ticks n) (h.tickTimers n) := by
  unfold tickTimers ticks
  induction n.toNat generalizing h with
  | zero => exact .refl h
  | succ n ih =>
    have htick : Through h [] [.stimulus .tick] (h.receive .tick) := h.through_receive nofun
    exact htick.trans (ih (h.receive .tick))

theorem through_finishFrames (h : Host) (frames : ℤ) :
    Through h [] (h.frameOperations frames) (h.finishFrames frames) := by
  unfold frameOperations finishFrames
  split_ifs
  · exact .refl h
  · -- that the frames are counted is not seen in the machine
    have hcount : Through (h.tickTimers frames) [] []
        ((h.tickTimers frames).countFrames frames.toNat) :=
      .still rfl ⟨rfl, rfl, rfl, rfl⟩ rfl
    rw [← List.append_nil (ticks frames)]
    exact (h.through_tickTimers frames).trans hcount

theorem through_runThenFinish (h : Host) (count frames : ℤ) :
    Through h [] (h.runThenFinishOperations count frames) (h.runThenFinish count frames).1 := by
  have hrun := h.through_runInstructions count
  unfold runThenFinishOperations runThenFinish
  generalize h.runInstructions count = x at hrun
  obtain ⟨h', r⟩ := x
  cases r with
  | ok changed => exact hrun.trans (h'.through_finishFrames frames)
  | error e => exact hrun.trans (.refl h')

/-- What is pending on the clocks is not seen in the machine. -/
theorem through_pend (h : Host) (p q : Timebase.Part Number) : Through h [] [] (h.pend p q) :=
  .still rfl ⟨rfl, rfl, rfl, rfl⟩ rfl

theorem through_advance (h : Host) (elapsed : Number) :
    Through h [] (h.advanceOperations elapsed) (h.advance elapsed).1 := by
  rw [advance_eq]
  unfold advanceOperations
  cases (h.instructionClock.advance elapsed).2 with
  | error e => exact h.through_pend _ _
  | ok count =>
    cases (h.timerClock.advance elapsed).2 with
    | error e => exact h.through_pend _ _
    | ok ticks => exact (h.through_pend _ _).trans (through_runThenFinish _ count ticks)

/-- **A request leads a host through its operations.** -/
theorem through_perform (h : Host) (o : HostOperation) :
    Through h [o] (h.operations o) (h.perform o).1 := by
  cases o with
  | frame =>
    refine Through.asked ?_ nofun
    show Through h [] _ h.runFrame.1
    rw [runFrame_eq]
    exact h.through_runThenFinish _ 1
  | advance elapsed =>
    refine Through.asked ?_ nofun
    show Through h [] _ (h.advanceValue elapsed).1
    rw [operations, advanceValue]
    cases elapsed.compared "<" with
    | error e => exact .refl h
    | ok n => exact h.through_advance n
  | run count =>
    refine Through.asked ?_ nofun
    show Through h [] _ (h.runValue count).1
    rw [operations, runValue]
    cases count.compared ">" with
    | error e => exact .refl h
    | ok n =>
      cases n with
      | int n => exact h.through_runInstructions n
      | real x =>
        simp only [attempts_eq_oneByOne]
        exact h.through_oneByOne _
  | tick n =>
    refine Through.asked ?_ nofun
    rw [operations, perform_tick]
    cases n.integer .length with
    | error e => exact .refl h
    | ok n => exact h.through_tickTimers n
  | keys s =>
    rw [operations, perform_keys]
    have hkeys : Through h [] [.stimulus (.keypad s)] (h.receive (.keypad s)) :=
      h.through_receive nofun
    exact hkeys.asked nofun
  | acknowledge =>
    exact
      { machine := rfl
        setup := ⟨rfl, rfl, rfl, rfl⟩
        faultsMet := le_refl _
        own := by simp [operations]
        restarted := by simp [operations, Operation.restarts, Host.faultsMet, perform,
          acknowledgeFrame]
        acknowledged := fun _ => List.mem_singleton_self _ }
  | reset =>
    exact
      { machine := rfl
        setup := ⟨rfl, rfl, rfl, rfl⟩
        faultsMet := (congrArg FaultCounts.total (Logger.logReset_counts _ _)).ge
        own := by simp [operations]
        restarted := by simp [operations, Operation.restarts]
        acknowledged := by simp [operations] }

/-- **Requests lead a host through their operations**, one after the other. -/
theorem through_performAll (h : Host) (requests : List HostOperation) :
    Through h requests (h.operationsAll requests) (h.performAll requests) := by
  induction requests generalizing h with
  | nil => exact .refl h
  | cons o requests ih => exact (h.through_perform o).trans (ih (h.perform o).1)

/-- The machine of a host after several requests. -/
theorem machine_performAll (h : Host) (requests : List HostOperation) :
    (h.performAll requests).machine = h.machine.performAll (h.operationsAll requests) :=
  (h.through_performAll requests).machine

/-- Whatever is asked of a host, its machine stays sound. -/
theorem sound_performAll (hm : h.machine.Sound) (requests : List HostOperation) :
    (h.performAll requests).machine.Sound := by
  rw [machine_performAll]
  exact hm.performAll _

end Host

end Chip8
