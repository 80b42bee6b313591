/-
  Hosts — what is asked of a host.

  A `HostOperation` is one request of a caller's, told by values of any kind.  Whatever
  is asked, unless it is the reset, what it does to the host is put together from four
  moves: an attempt at an instruction, a stimulus for the machine, another part of a tick
  pending on the clocks, and frames that are counted.  So what holds of the moves holds of
  every sequence of requests.

  * `faulted_cases`, `faulted_counts`: what is done about a fault, and what is counted;
  * `Lockstep`: a relation between two hosts that every move keeps;
  * `Lockstep.performAll`: the same requests keep it and are given the same answers;
  * `Kept.performAll`: the same for a property of one host;
  * `setup_performAll`: configuration, program and rates never change;
  * `Alike`: two hosts that differ in what they have counted and logged at most, with
    what the moves make of them.
-/
import Chip8.Host.Request
import Chip8.Proofs.Batching

namespace Chip8

/-- What a caller asks of a host. -/
inductive HostOperation where
  /-- run one frame -/
  | frame
  /-- let time elapse -/
  | advance (elapsed : Value)
  /-- run a number of instructions -/
  | run (count : Value)
  /-- let a number of timer ticks pass -/
  | tick (ticks : Value)
  /-- supply the keypad -/
  | keys (s : Value)
  /-- the display has been shown -/
  | acknowledge
  | reset

/-- What a host answers: that a request cannot be met, or, if it ran instructions,
    whether one that draws or clears was performed. -/
abbrev Answer := Except Error (Option Bool)

/-- A clock that time has passed on is another only in what is pending. -/
theorem Clock.advance_fst {τ : Type} [Timebase τ] (c : Clock τ) (elapsed : τ) :
    (c.advance elapsed).1 = { c with pending := (c.advance elapsed).1.pending } := by
  unfold Clock.advance
  split_ifs
  · rfl
  · split
    · rfl
    · split <;> rfl

namespace Host

/-! ## Requests -/

/-- The answer to a request that runs instructions. -/
def answered (r : Host × Except Error Bool) : Host × Answer := (r.1, r.2.map some)

/-- The answer to a request that changes nothing if it is refused. -/
def accepted (h : Host) : Except Error Host → Host × Answer
  | .ok h' => (h', .ok none)
  | .error e => (h, .error e)

/-- A host after a request, and its answer. -/
def perform (h : Host) : HostOperation → Host × Answer
  | .frame => answered h.runFrame
  | .advance elapsed => answered (h.advanceValue elapsed)
  | .run count => answered (h.runValue count)
  | .tick ticks => h.accepted (h.tickValue ticks)
  | .keys s => h.accepted (h.setKeys s)
  | .acknowledge => (h.acknowledgeFrame, .ok none)
  | .reset => (h.reset, .ok none)

/-- A host after several requests. -/
def performAll (h : Host) (ops : List HostOperation) : Host :=
  ops.foldl (fun h o => (h.perform o).1) h

/-- The answers to several requests. -/
def answers (h : Host) : List HostOperation → List Answer
  | [] => []
  | o :: ops => (h.perform o).2 :: (h.perform o).1.answers ops

theorem performAll_append (h : Host) (before after : List HostOperation) :
    h.performAll (before ++ after) = (h.performAll before).performAll after :=
  List.foldl_append

/-- A host at its start. -/
theorem create_eq {config : HostConfig} {rom : Rom} {logger : Logger} {name : Value} {h : Host}
    (hcreate : create config rom logger name = .ok h) :
    h =
      { config, rom
        machine := boot config rom
        instructionClock := .start config.instructionFrequency
        timerClock := .start config.timerFrequency
        instructionCount := 0
        frameCount := 0
        halted := false
        lastFault := none
        logger := (logger.logReset config.given.seed).logRomLoaded name (.int rom.length) } := by
  unfold create at hcreate
  cases hseed : Machine.ofSeed config.seed with
  | error e => rw [hseed] at hcreate; cases hcreate
  | ok m =>
    rw [hseed] at hcreate
    change (m.loadRom rom config.given.maxRomSize >>= _) = _ at hcreate
    cases hload : m.loadRom rom config.given.maxRomSize with
    | error e => rw [hload] at hcreate; cases hcreate
    | ok m' => rw [hload] at hcreate; cases hcreate; rfl

/-! ## Moves -/

/-- The host whose machine has received a stimulus. -/
def receive (h : Host) (s : Stimulus) : Host := { h with machine := h.machine.receive s }

/-- The host with other parts of a tick pending on its clocks. -/
def pend (h : Host) (p q : Timebase.Part Number) : Host :=
  { h with
    instructionClock := { h.instructionClock with pending := p }
    timerClock := { h.timerClock with pending := q } }

/-- The host that has counted more frames. -/
def countFrames (h : Host) (n : ℕ) : Host := { h with frameCount := h.frameCount + n }

/-- Run a number of instructions, and if they could be run finish so many frames. -/
def runThenFinish (h : Host) (count frames : ℤ) : Host × Except Error Bool :=
  match h.runInstructions count with
  | (h, .ok changed) => (h.finishFrames frames, .ok changed)
  | (h, .error e) => (h, .error e)

theorem runFrame_eq (h : Host) :
    h.runFrame = h.runThenFinish h.config.instructionsPerFrame 1 := rfl

/-- Letting time elapse, move by move. -/
theorem advance_eq (h : Host) (elapsed : Number) :
    let p := (h.instructionClock.advance elapsed).1.pending
    let q := (h.timerClock.advance elapsed).1.pending
    h.advance elapsed =
      match (h.instructionClock.advance elapsed).2 with
      | .error e => (h.pend p h.timerClock.pending, .error e)
      | .ok count =>
        match (h.timerClock.advance elapsed).2 with
        | .error e => (h.pend p q, .error e)
        | .ok ticks => (h.pend p q).runThenFinish count ticks := by
  have hp := h.instructionClock.advance_fst elapsed
  have hq := h.timerClock.advance_fst elapsed
  simp only [advance, pend, ← hp, ← hq]
  cases (h.instructionClock.advance elapsed).2 with
  | error e => rfl
  | ok count =>
    cases (h.timerClock.advance elapsed).2 with
    | error e => rfl
    | ok ticks => rfl

/-- A keypad that is refused changes nothing. -/
theorem perform_keys (h : Host) (s : Value) :
    h.perform (.keys s) = (h.receive (.keypad s), (Keypad.ofSnapshot s).map fun _ => none) := by
  show h.accepted (h.setKeys s) = _
  unfold setKeys receive
  rw [Machine.receive]
  unfold Machine.setKeypad
  cases Keypad.ofSnapshot s with
  | error e => rfl
  | ok k => rfl

theorem perform_tick (h : Host) (ticks : Value) :
    h.perform (.tick ticks) =
      match ticks.integer .length with
      | .error e => (h, .error e)
      | .ok n => (h.tickTimers n, .ok none) := by
  show h.accepted (h.tickValue ticks) = _
  unfold tickValue
  cases ticks.integer .length with
  | error e => rfl
  | ok n => rfl

theorem attempt_snd (h : Host) : h.attempt.2 = h.machine.step.displayChanged := by
  cases hs : h.machine.step.fault with
  | none => rw [attempt_of_ok hs]
  | some f =>
    rw [attempt_of_fault hs, Machine.step_of_error (Machine.step_fault_eq_some_iff.1 hs)]

/-- What is done about a fault: the host stops, or goes on after the word, or starts again. -/
theorem faulted_cases (h : Host) (f : Fault) :
    (h.config.policy ≠ .reset ∧
      (h.config.policy = .skip → 4096 ≤ h.machine.pc.toNat + 1) ∧
      h.faulted f = { h.noted f .halt with halted := true }) ∨
    (h.config.policy = .skip ∧ h.machine.pc.toNat + 1 < 4096 ∧
      h.faulted f =
        { h.noted f .skip with machine := { h.machine with pc := h.machine.pc + 2 } }) ∨
    (h.config.policy = .reset ∧
      h.faulted f = { (h.noted f .reset).reset with lastFault := some f }) := by
  unfold faulted
  cases hp : h.config.policy with
  | halt => exact Or.inl ⟨nofun, nofun, rfl⟩
  | skip =>
    by_cases hpc : h.machine.pc.toNat + 1 < 4096
    · exact Or.inr (Or.inl ⟨rfl, hpc, if_pos hpc⟩)
    · exact Or.inl ⟨nofun, fun _ => Nat.le_of_not_lt hpc, if_neg hpc⟩
  | reset => exact Or.inr (Or.inr ⟨rfl, rfl⟩)

/-- What a fault adds to the counts: itself. -/
theorem faulted_counts (h : Host) (f : Fault) :
    (h.faulted f).instructionCount = h.instructionCount ∧
      (h.faulted f).frameCount = h.frameCount ∧
      (h.faulted f).logger.counts = h.logger.counts.count f := by
  have hnoted : ∀ p, (h.noted f p).logger.counts = h.logger.counts.count f := fun p =>
    Logger.logFault_counts _ _ _ _ _
  rcases h.faulted_cases f with ⟨-, -, heq⟩ | ⟨-, -, heq⟩ | ⟨-, heq⟩
  · rw [heq]
    exact ⟨rfl, rfl, hnoted .halt⟩
  · rw [heq]
    exact ⟨rfl, rfl, hnoted .skip⟩
  · rw [heq]
    exact ⟨rfl, rfl, (Logger.logReset_counts _ _).trans (hnoted .reset)⟩

/-- An attempt counts no frame. -/
theorem frameCount_attempt (h : Host) : h.attempt.1.frameCount = h.frameCount := by
  cases hs : h.machine.step.fault with
  | none => rw [attempt_of_ok hs]
  | some f => rw [attempt_of_fault hs, (h.faulted_counts f).2.1]

theorem frameCount_oneByOne (h : Host) (n : ℕ) : (h.oneByOne n).1.frameCount = h.frameCount := by
  induction n generalizing h with
  | zero => rfl
  | succ n ih =>
    rw [oneByOne]
    split_ifs
    · rfl
    · exact (ih h.attempt.1).trans h.frameCount_attempt

/-! ## Two hosts in step -/

/-- Two hosts that differ in what they have counted and logged at most. -/
structure Alike (g h : Host) : Prop where
  config : h.config = g.config
  rom : h.rom = g.rom
  machine : h.machine = g.machine
  instructionClock : h.instructionClock = g.instructionClock
  timerClock : h.timerClock = g.timerClock
  halted : h.halted = g.halted
  lastFault : h.lastFault = g.lastFault

/-- **A relation that every move keeps**, between hosts that are alike. -/
structure Lockstep (R : Host → Host → Prop) : Prop where
  alike : ∀ {g h}, R g h → g.Alike h
  attempt : ∀ {g h}, R g h → g.halted = false → R g.attempt.1 h.attempt.1
  receive : ∀ {g h}, R g h → ∀ s, R (g.receive s) (h.receive s)
  pend : ∀ {g h}, R g h → ∀ p q, R (g.pend p q) (h.pend p q)
  countFrames : ∀ {g h}, R g h → g.halted = false → ∀ n, R (g.countFrames n) (h.countFrames n)

/-- Two outcomes with the same answer and hosts that are related. -/
def Paired {α : Type} (R : Host → Host → Prop) (x y : Host × α) : Prop := R x.1 y.1 ∧ x.2 = y.2

namespace Lockstep

variable {R : Host → Host → Prop} {g h : Host}

theorem oneByOne (hR : Lockstep R) (hgh : R g h) (n : ℕ) :
    Paired R (g.oneByOne n) (h.oneByOne n) := by
  induction n generalizing g h with
  | zero => exact ⟨hgh, rfl⟩
  | succ n ih =>
    -- both are halted or neither is, and both machines draw in the attempt or neither does
    have ha := hR.alike hgh
    rw [Host.oneByOne, Host.oneByOne, ha.halted]
    split_ifs with hh
    · exact ⟨hgh, rfl⟩
    · obtain ⟨hrest, hsame⟩ := ih (hR.attempt hgh (Bool.not_eq_true _ ▸ hh))
      refine ⟨hrest, ?_⟩
      rw [hsame, attempt_snd, attempt_snd, ha.machine]

theorem runInstructions (hR : Lockstep R) (hgh : R g h) (count : ℤ) :
    Paired R (g.runInstructions count) (h.runInstructions count) := by
  unfold Host.runInstructions
  rw [(hR.alike hgh).halted]
  split_ifs
  · exact ⟨hgh, rfl⟩
  · rw [attempts_eq_oneByOne, attempts_eq_oneByOne]
    obtain ⟨hrest, hsame⟩ := hR.oneByOne hgh count.toNat
    exact ⟨hrest, congrArg Except.ok hsame⟩

theorem tickTimers (hR : Lockstep R) (hgh : R g h) (ticks : ℤ) :
    R (g.tickTimers ticks) (h.tickTimers ticks) := by
  unfold Host.tickTimers
  induction ticks.toNat generalizing g h with
  | zero => exact hgh
  | succ n ih => exact ih (hR.receive hgh .tick)

theorem finishFrames (hR : Lockstep R) (hgh : R g h) (frames : ℤ) :
    R (g.finishFrames frames) (h.finishFrames frames) := by
  unfold Host.finishFrames
  rw [(hR.alike hgh).halted]
  split_ifs with hh
  · exact hgh
  · exact hR.countFrames (hR.tickTimers hgh frames) (Bool.not_eq_true _ ▸ hh) frames.toNat

theorem runThenFinish (hR : Lockstep R) (hgh : R g h) (count frames : ℤ) :
    Paired R (g.runThenFinish count frames) (h.runThenFinish count frames) := by
  obtain ⟨hrun, hsame⟩ := hR.runInstructions hgh count
  unfold Host.runThenFinish
  -- with the same answer both finish their frames or neither does
  generalize g.runInstructions count = x at hrun hsame
  generalize h.runInstructions count = y at hrun hsame
  obtain ⟨g', r⟩ := x
  obtain ⟨h', s⟩ := y
  cases hsame
  cases r with
  | error e => exact ⟨hrun, rfl⟩
  | ok changed => exact ⟨hR.finishFrames hrun frames, rfl⟩

theorem advance (hR : Lockstep R) (hgh : R g h) (elapsed : Number) :
    Paired R (g.advance elapsed) (h.advance elapsed) := by
  have ha := hR.alike hgh
  rw [advance_eq, advance_eq, ha.instructionClock, ha.timerClock]
  split
  · exact ⟨hR.pend hgh _ _, rfl⟩
  · split
    · exact ⟨hR.pend hgh _ _, rfl⟩
    · exact hR.runThenFinish (hR.pend hgh _ _) _ _

theorem runValue (hR : Lockstep R) (hgh : R g h) (count : Value) :
    Paired R (g.runValue count) (h.runValue count) := by
  unfold Host.runValue
  split
  · exact ⟨hgh, rfl⟩
  · exact hR.runInstructions hgh _
  · rw [attempts_eq_oneByOne, attempts_eq_oneByOne]
    obtain ⟨hrest, hsame⟩ := hR.oneByOne hgh _
    exact ⟨hrest, congrArg Except.ok hsame⟩

theorem answered {x y : Host × Except Error Bool} (hxy : Paired R x y) :
    Paired R (Host.answered x) (Host.answered y) :=
  ⟨hxy.1, congrArg (Except.map some) hxy.2⟩

/-- The same request keeps hosts in step and is given the same answer, if the reset does. -/
theorem perform (hR : Lockstep R) (hgh : R g h) (o : HostOperation)
    (hreset : o = .reset → R g.reset h.reset) : Paired R (g.perform o) (h.perform o) := by
  cases o with
  | frame =>
    refine answered ?_
    rw [runFrame_eq, runFrame_eq, (hR.alike hgh).config]
    exact hR.runThenFinish hgh _ _
  | advance elapsed =>
    refine answered ?_
    unfold advanceValue
    split
    · exact ⟨hgh, rfl⟩
    · exact hR.advance hgh _
  | run count => exact answered (hR.runValue hgh count)
  | tick ticks =>
    rw [perform_tick, perform_tick]
    split
    · exact ⟨hgh, rfl⟩
    · exact ⟨hR.tickTimers hgh _, rfl⟩
  | keys s =>
    rw [perform_keys, perform_keys]
    exact ⟨hR.receive hgh (.keypad s), rfl⟩
  | acknowledge => exact ⟨hR.receive hgh .acknowledge, rfl⟩
  | reset => exact ⟨hreset rfl, rfl⟩

/-- **The same requests keep hosts in step** and are given the same answers.  Of the reset
    this must be known if it is among them. -/
theorem performAll (hR : Lockstep R) (hgh : R g h) (ops : List HostOperation)
    (hreset : .reset ∈ ops → ∀ {g h}, R g h → R g.reset h.reset) :
    R (g.performAll ops) (h.performAll ops) ∧ g.answers ops = h.answers ops := by
  induction ops generalizing g h with
  | nil => exact ⟨hgh, rfl⟩
  | cons o ops ih =>
    obtain ⟨hnext, hsame⟩ := hR.perform hgh o fun ho => hreset (ho ▸ List.mem_cons_self) hgh
    obtain ⟨hrest, hall⟩ := ih hnext fun hmem => hreset (List.mem_cons_of_mem o hmem)
    exact ⟨hrest, by rw [answers, answers, hsame, hall]⟩

end Lockstep

/-! ## A property of one host -/

/-- **A property that every move keeps.** -/
structure Kept (P : Host → Prop) : Prop where
  attempt : ∀ {h}, P h → h.halted = false → P h.attempt.1
  receive : ∀ {h}, P h → ∀ s, P (h.receive s)
  pend : ∀ {h}, P h → ∀ p q, P (h.pend p q)
  countFrames : ∀ {h}, P h → h.halted = false → ∀ n, P (h.countFrames n)

namespace Kept

variable {P : Host → Prop} {h : Host}

/-- A host is in step with itself. -/
theorem lockstep (hP : Kept P) : Lockstep fun g h => g = h ∧ P h where
  alike := by
    rintro g h ⟨rfl, -⟩
    exact ⟨rfl, rfl, rfl, rfl, rfl, rfl, rfl⟩
  attempt := by
    rintro g h ⟨rfl, hg⟩ hh
    exact ⟨rfl, hP.attempt hg hh⟩
  receive := by
    rintro g h ⟨rfl, hg⟩ s
    exact ⟨rfl, hP.receive hg s⟩
  pend := by
    rintro g h ⟨rfl, hg⟩ p q
    exact ⟨rfl, hP.pend hg p q⟩
  countFrames := by
    rintro g h ⟨rfl, hg⟩ hh n
    exact ⟨rfl, hP.countFrames hg hh n⟩

/-- **What every move keeps, requests keep**, if the reset does or is not among them. -/
theorem performAll (hP : Kept P) (hh : P h) (ops : List HostOperation)
    (hreset : .reset ∈ ops → ∀ {h}, P h → P h.reset) : P (h.performAll ops) := by
  refine (hP.lockstep.performAll ⟨rfl, hh⟩ ops fun hmem => ?_).1.2
  rintro g h ⟨rfl, hg⟩
  exact ⟨rfl, hreset hmem hg⟩

end Kept

/-! ## What never changes -/

/-- Two hosts of the same configuration and program, with clocks of the same rates. -/
structure SameSetup (g h : Host) : Prop where
  config : h.config = g.config
  rom : h.rom = g.rom
  instructionFrequency : h.instructionClock.frequency = g.instructionClock.frequency
  timerFrequency : h.timerClock.frequency = g.timerClock.frequency

theorem setup_attempt (h : Host) : SameSetup h h.attempt.1 := by
  cases hs : h.machine.step.fault with
  | none =>
    rw [attempt_of_ok hs]
    exact ⟨rfl, rfl, rfl, rfl⟩
  | some f =>
    rw [attempt_of_fault hs]
    rcases h.faulted_cases f with ⟨-, -, heq⟩ | ⟨-, -, heq⟩ | ⟨-, heq⟩
    all_goals
      rw [heq]
      exact ⟨rfl, rfl, rfl, rfl⟩

theorem SameSetup.trans {g h k : Host} (h₁ : SameSetup g h) (h₂ : SameSetup h k) : SameSetup g k :=
  ⟨h₂.config.trans h₁.config, h₂.rom.trans h₁.rom,
    h₂.instructionFrequency.trans h₁.instructionFrequency,
    h₂.timerFrequency.trans h₁.timerFrequency⟩

/-- **Configuration, program and rates never change.** -/
theorem setup_performAll (h : Host) (ops : List HostOperation) :
    SameSetup h (h.performAll ops) := by
  have hkept : Kept (SameSetup h) :=
    { attempt := fun hs _ => hs.trans (setup_attempt _)
      receive := fun hs _ => hs.trans ⟨rfl, rfl, rfl, rfl⟩
      pend := fun hs _ _ => hs.trans ⟨rfl, rfl, rfl, rfl⟩
      countFrames := fun hs _ _ => hs.trans ⟨rfl, rfl, rfl, rfl⟩ }
  exact hkept.performAll ⟨rfl, rfl, rfl, rfl⟩ ops fun _ _ hs => hs.trans ⟨rfl, rfl, rfl, rfl⟩

/-! ## Hosts that are alike -/

namespace Alike

variable {g h : Host}

theorem receive (ha : g.Alike h) (s : Stimulus) : (g.receive s).Alike (h.receive s) where
  __ := ha
  machine := congrArg (Machine.receive · s) ha.machine

theorem pend (ha : g.Alike h) (p q : Timebase.Part Number) : (g.pend p q).Alike (h.pend p q) where
  __ := ha
  instructionClock := congrArg (fun c : Clock Number => { c with pending := p }) ha.instructionClock
  timerClock := congrArg (fun c : Clock Number => { c with pending := q }) ha.timerClock

theorem countFrames (ha : g.Alike h) (n : ℕ) : (g.countFrames n).Alike (h.countFrames n) where
  __ := ha

theorem reset (ha : g.Alike h) : g.reset.Alike h.reset where
  config := ha.config
  rom := ha.rom
  machine := congrArg₂ boot ha.config ha.rom
  instructionClock := congrArg Clock.reset ha.instructionClock
  timerClock := congrArg Clock.reset ha.timerClock
  halted := rfl
  lastFault := rfl

theorem faulted (ha : g.Alike h) (f : Fault) : (g.faulted f).Alike (h.faulted f) := by
  unfold Host.faulted
  rw [ha.config]
  split
  · exact { ha with halted := rfl, lastFault := rfl }
  · rw [ha.machine]
    split_ifs
    · exact { ha with machine := rfl, lastFault := rfl }
    · exact { ha with halted := rfl, lastFault := rfl }
  · have hreset := ha.reset
    exact { hreset with machine := by rw [ha.rom], lastFault := rfl }

theorem attempt (ha : g.Alike h) : g.attempt.1.Alike h.attempt.1 := by
  cases hs : g.machine.step.fault with
  | none =>
    rw [attempt_of_ok hs, attempt_of_ok (ha.machine ▸ hs)]
    exact { ha with machine := congrArg (·.step.machine) ha.machine }
  | some f =>
    rw [attempt_of_fault hs, attempt_of_fault (ha.machine ▸ hs)]
    exact ha.faulted f

end Alike

end Host

end Chip8
