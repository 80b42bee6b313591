/-
  Hosts — the level of the log only filters.

  A host logs faults, resets and programs, and counts the faults in its log.  Of two hosts that
  differ in the level of the log, the one with the higher level is at every moment the other
  one with lines left out.

  * `Logger.raised`, `Host.raised`: a logger and a host as they would be at a higher level;
  * `Logger.raised_logAt`, `Host.raised_attempt`: raising before and after is the same;
  * `Host.raised_lockstep`: hence two such hosts stay in step;
  * `Host.kept_told`: a log that prints warnings has told every fault that was counted;
  * `Host.perform_at_error`: at the level of errors a request prints a line iff it halts the host;
  * `Host.level_only_filters`: all of it, for hosts from their start.
-/
import Chip8.Proofs.HostOperations

namespace Chip8

/-- Whether the message of a line is of a level at least. -/
def LogLine.reaches (line : LogLine) (level : LogLevel) : Bool := level.rank ≤ line.level.rank

namespace Logger

/-- The logger that would have printed what reaches a level. -/
def raised (l : Logger) (level : LogLevel) : Logger :=
  { l with threshold := level, printed := l.printed.filter (·.reaches level) }

variable {l : Logger} {level : LogLevel}

theorem severity_name (level : LogLevel) : severity level.name = level := by
  rw [severity, LogLevel.ofName?_name]
  rfl

/-! ## What logging changes -/

theorem log_of_prints (h : l.threshold.rank ≤ level.rank) (message : String) :
    l.logAt level message =
      { l with printed := l.printed.push ⟨level, l.line level.name message⟩ } := by
  rw [logAt, log, severity_name, prints, if_pos (decide_eq_true h)]

theorem log_of_silent (h : ¬ l.threshold.rank ≤ level.rank) (message : String) :
    l.logAt level message = l := by
  rw [logAt, log, severity_name, prints, decide_eq_false h, if_neg Bool.false_ne_true]

/-- Logging a message changes what is printed at most. -/
theorem exists_logAt (l : Logger) (level : LogLevel) (message : String) :
    ∃ printed, l.logAt level message = { l with printed } := by
  by_cases h : l.threshold.rank ≤ level.rank
  · exact ⟨_, log_of_prints h message⟩
  · exact ⟨_, log_of_silent h message⟩

theorem logAt_threshold (l : Logger) (level : LogLevel) (message : String) :
    (l.logAt level message).threshold = l.threshold := by
  obtain ⟨printed, heq⟩ := l.exists_logAt level message
  rw [heq]

theorem logAt_line (l : Logger) (level : LogLevel) (message : String) :
    (l.logAt level message).line = l.line := by
  obtain ⟨printed, heq⟩ := l.exists_logAt level message
  rw [heq]
  rfl

/-- Raising a logger before or after it is told a message is the same. -/
theorem raised_logAt (hl : l.threshold.rank ≤ level.rank) (severity : LogLevel) (message : String) :
    (l.raised level).logAt severity message = (l.logAt severity message).raised level := by
  set line : LogLine := ⟨severity, l.line severity.name message⟩
  -- the line is the same for both, as it does not tell the level of the logger
  have hreaches : line.reaches level = decide (level.rank ≤ severity.rank) := rfl
  by_cases hreach : level.rank ≤ severity.rank
  · have hfilter : (l.printed.push line).filter (·.reaches level) =
        (l.printed.filter (·.reaches level)).push line := by
      simp [hreaches, hreach]
    rw [log_of_prints (hl.trans hreach), log_of_prints (l := l.raised level) hreach]
    exact congrArg (fun printed => { l with threshold := level, printed }) hfilter.symm
  · have hfilter : (l.printed.push line).filter (·.reaches level) =
        l.printed.filter (·.reaches level) := by
      simp [hreaches, hreach]
    rw [log_of_silent (l := l.raised level) hreach]
    by_cases hprints : l.threshold.rank ≤ severity.rank
    · rw [log_of_prints hprints]
      exact congrArg (fun printed => { l with threshold := level, printed }) hfilter.symm
    · rw [log_of_silent hprints]

theorem raised_logFault (hl : l.threshold.rank ≤ level.rank) (f : Fault) (pc word : ℤ)
    (action : String) :
    (l.raised level).logFault f pc word action = (l.logFault f pc word action).raised level :=
  raised_logAt (l := { l with counts := l.counts.count f }) hl _ _

theorem raised_logReset (hl : l.threshold.rank ≤ level.rank) (seed : Value) :
    (l.raised level).logReset seed = (l.logReset seed).raised level :=
  raised_logAt hl _ _

/-- Of a logger that is made it is only the level that tells. -/
theorem ofSettings_name (s : LoggerSettings) (now : Value) (level : LogLevel) :
    ∃ l, ofSettings { s with level := .text level.name } now = .ok l ∧ l.threshold = level ∧
      l.counts = {} ∧ l.printed = #[] ∧
      ∀ level', ofSettings { s with level := .text level'.name } now = .ok (l.raised level') := by
  have hmade : ∀ level : LogLevel, ofSettings { s with level := .text level.name } now = .ok
      { name := s.name, threshold := level, emulation := s.emulation
        colored := s.colors && s.terminal, timestamps := s.timestamps, startTime := now, now
        counts := {}, printed := #[] } := by
    intro level
    simp only [ofSettings, LogLevel.ofName?_name]
  exact ⟨_, hmade level, rfl, rfl, rfl, hmade⟩

/-- How many faults a log has told of: their lines are warnings and errors. -/
def told (l : Logger) : ℕ := l.printed.countP (·.reaches .warning)

theorem told_logAt (hl : l.threshold.rank ≤ LogLevel.warning.rank) (level : LogLevel)
    (message : String) :
    (l.logAt level message).told =
      l.told + if LogLevel.warning.rank ≤ level.rank then 1 else 0 := by
  by_cases hreach : LogLevel.warning.rank ≤ level.rank
  · have hcounted : ∀ text, LogLine.reaches ⟨level, text⟩ .warning = true :=
      fun _ => decide_eq_true hreach
    rw [log_of_prints (hl.trans hreach), told, Array.countP_push, if_pos (hcounted _),
      if_pos hreach]
    rfl
  · have hother : ∀ text, ¬ LogLine.reaches ⟨level, text⟩ .warning = true :=
      fun _ h => hreach (of_decide_eq_true h)
    rw [if_neg hreach]
    by_cases hprints : l.threshold.rank ≤ level.rank
    · rw [log_of_prints hprints, told, Array.countP_push, if_neg (hother _)]
      rfl
    · rw [log_of_silent hprints]
      rfl

end Logger

namespace Host

/-- The host whose log would have been at a level. -/
def raised (h : Host) (level : LogLevel) : Host := { h with logger := h.logger.raised level }

variable {g h : Host} {level : LogLevel} {f : Fault}

/-! ## Two levels -/

theorem threshold_noted (h : Host) (f : Fault) (p : FaultPolicy) :
    (h.noted f p).logger.threshold = h.logger.threshold :=
  Logger.logAt_threshold _ _ _

theorem raised_noted (hl : h.logger.threshold.rank ≤ level.rank) (f : Fault) (p : FaultPolicy) :
    (h.raised level).noted f p = (h.noted f p).raised level := by
  unfold noted raised
  rw [Logger.raised_logFault hl]
  rfl

theorem raised_faulted (hl : h.logger.threshold.rank ≤ level.rank) (f : Fault) :
    (h.raised level).faulted f = (h.faulted f).raised level := by
  have hnoted := fun p => raised_noted hl f p
  have hreset : ((h.noted f .reset).raised level).logger.logReset h.config.given.seed =
      ((h.noted f .reset).logger.logReset h.config.given.seed).raised level :=
    Logger.raised_logReset ((threshold_noted h f .reset).symm ▸ hl) _
  have hconfig : (h.raised level).config = h.config := rfl
  have hmachine : (h.raised level).machine = h.machine := rfl
  unfold faulted
  rw [hconfig, hmachine]
  cases h.config.policy with
  | halt =>
    simp only [hnoted]
    rfl
  | skip =>
    simp only [hnoted]
    split_ifs
    · rfl
    · rfl
  | reset =>
    simp only [hnoted, hreset]
    rfl

theorem raised_attempt (hl : h.logger.threshold.rank ≤ level.rank) :
    (h.raised level).attempt.1 = h.attempt.1.raised level := by
  cases hs : h.machine.step.fault with
  | none =>
    rw [attempt_of_ok hs, attempt_of_ok (h := h.raised level) hs]
    rfl
  | some f =>
    rw [attempt_of_fault hs, attempt_of_fault (h := h.raised level) hs]
    exact raised_faulted hl f

theorem raised_reset (hl : h.logger.threshold.rank ≤ level.rank) :
    (h.raised level).reset = h.reset.raised level := by
  have hlogger : (h.raised level).logger.logReset h.config.given.seed =
      (h.logger.logReset h.config.given.seed).raised level := Logger.raised_logReset hl _
  unfold reset
  rw [show (h.raised level).config = h.config from rfl, hlogger]
  rfl

theorem threshold_faulted (h : Host) (f : Fault) :
    (h.faulted f).logger.threshold = h.logger.threshold := by
  have hnoted := h.threshold_noted f
  rcases h.faulted_cases f with ⟨-, -, heq⟩ | ⟨-, -, heq⟩ | ⟨-, heq⟩
  · rw [heq]
    exact hnoted .halt
  · rw [heq]
    exact hnoted .skip
  · rw [heq]
    exact (Logger.logAt_threshold _ _ _).trans (hnoted .reset)

theorem threshold_attempt (h : Host) : h.attempt.1.logger.threshold = h.logger.threshold := by
  cases hs : h.machine.step.fault with
  | none => rw [attempt_of_ok hs]
  | some f => rw [attempt_of_fault hs, threshold_faulted]

/-- The second host is the first one with its log at a level that is as high or higher. -/
def Raised (level : LogLevel) (g h : Host) : Prop :=
  g.logger.threshold.rank ≤ level.rank ∧ h = g.raised level

theorem Raised.reset (hgh : Raised level g h) : Raised level g.reset h.reset := by
  obtain ⟨hl, rfl⟩ := hgh
  have hthreshold : g.reset.logger.threshold = g.logger.threshold := Logger.logAt_threshold _ _ _
  exact ⟨hthreshold ▸ hl, raised_reset hl⟩

/-- **Every move keeps two hosts apart in the level of their logs only.** -/
theorem raised_lockstep (level : LogLevel) : Lockstep (Raised level) where
  alike := by
    rintro g h ⟨-, rfl⟩
    exact ⟨rfl, rfl, rfl, rfl, rfl, rfl, rfl⟩
  attempt := by
    rintro g h ⟨hl, rfl⟩ -
    exact ⟨g.threshold_attempt.symm ▸ hl, raised_attempt hl⟩
  receive := by
    rintro g h ⟨hl, rfl⟩ s
    exact ⟨hl, rfl⟩
  pend := by
    rintro g h ⟨hl, rfl⟩ p q
    exact ⟨hl, rfl⟩
  countFrames := by
    rintro g h ⟨hl, rfl⟩ - n
    exact ⟨hl, rfl⟩

theorem create_raised {config : HostConfig} {rom : Rom} {logger : Logger} {name : Value}
    (hl : logger.threshold.rank ≤ level.rank) :
    create config rom (logger.raised level) name =
      (create config rom logger name).map (·.raised level) := by
  unfold create
  cases Machine.ofSeed config.seed with
  | error e => rfl
  | ok m =>
    simp only [bind, Except.bind]
    cases m.loadRom rom config.given.maxRomSize with
    | error e => rfl
    | ok m' =>
      refine congrArg Except.ok ?_
      -- both start with a reset, after which they log the program
      let start : Host :=
        { config, rom, machine := m'
          instructionClock := .start config.instructionFrequency
          timerClock := .start config.timerFrequency
          instructionCount := 0
          frameCount := 0
          halted := false
          lastFault := none
          logger }
      have hreset : (start.raised level).reset = start.reset.raised level := raised_reset hl
      have hthreshold : start.reset.logger.threshold = logger.threshold :=
        Logger.logAt_threshold _ _ _
      have hloaded : (start.reset.logger.raised level).logRomLoaded name (.int rom.length) =
          (start.reset.logger.logRomLoaded name (.int rom.length)).raised level :=
        Logger.raised_logAt (hthreshold.symm ▸ hl) _ _
      show { (start.raised level).reset with
        logger := (start.raised level).reset.logger.logRomLoaded name (.int rom.length) } = _
      rw [hreset]
      exact congrArg (fun logger => { start.reset with logger }) hloaded

/-! ## What is told of faults -/

theorem told_noted (hl : h.logger.threshold.rank ≤ LogLevel.warning.rank) (f : Fault)
    (p : FaultPolicy) : (h.noted f p).logger.told = h.logger.told + 1 := by
  have hreaches : LogLevel.warning.rank ≤ (Logger.faultLevel p.name).rank := by
    cases p <;> decide
  set counted : Logger := { h.logger with counts := h.logger.counts.count f }
  refine (Logger.told_logAt (l := counted) hl _ _).trans ?_
  rw [if_pos hreaches]
  rfl

theorem told_faulted (hl : h.logger.threshold.rank ≤ LogLevel.warning.rank) (f : Fault) :
    (h.faulted f).logger.told = h.logger.told + 1 := by
  have hnoted := told_noted hl f
  rcases h.faulted_cases f with ⟨-, -, heq⟩ | ⟨-, -, heq⟩ | ⟨-, heq⟩
  · rw [heq]
    exact hnoted .halt
  · rw [heq]
    exact hnoted .skip
  · rw [heq]
    refine (Logger.told_logAt ((h.threshold_noted f .reset).symm ▸ hl) .info _).trans ?_
    exact hnoted .reset

/-- The log has told of every fault that was counted. -/
def TellsAll (h : Host) : Prop :=
  h.logger.threshold.rank ≤ LogLevel.warning.rank ∧ h.logger.told = h.logger.counts.total

theorem TellsAll.reset (hh : h.TellsAll) : h.reset.TellsAll := by
  have hthreshold : h.reset.logger.threshold = h.logger.threshold := Logger.logAt_threshold _ _ _
  have hcounts : h.reset.logger.counts = h.logger.counts := Logger.logReset_counts _ _
  have htold : h.reset.logger.told = h.logger.told := Logger.told_logAt hh.1 .info _
  exact ⟨hthreshold ▸ hh.1, by rw [htold, hcounts, hh.2]⟩

/-- **A log that prints warnings tells every fault.** -/
theorem kept_told : Kept TellsAll where
  attempt := by
    rintro h ⟨hl, htold⟩ -
    refine ⟨h.threshold_attempt.symm ▸ hl, ?_⟩
    cases hs : h.machine.step.fault with
    | none =>
      rw [attempt_of_ok hs]
      exact htold
    | some f =>
      rw [attempt_of_fault hs, told_faulted hl, htold, (h.faulted_counts f).2.2,
        FaultCounts.total_count]
  receive := fun hh _ => hh
  pend := fun hh _ _ => hh
  countFrames := fun hh _ _ => hh

/-! ## The level of errors -/

/-- The line that tells of a fault that halts the host. -/
def haltLine (h : Host) (f : Fault) : LogLine :=
  let described := Fault.describe (some f) h.machine.pc.toNat h.currentWord.toNat
  ⟨.error, h.logger.line LogLevel.error.name (described ++ " -> " ++ FaultPolicy.halt.name)⟩

theorem haltLine_receive (h : Host) (s : Stimulus) (f : Fault) :
    (h.receive s).haltLine f = h.haltLine f := by
  unfold receive haltLine currentWord
  rw [Machine.receive_eq]
  rfl

theorem haltLine_noted (h : Host) (f : Fault) (p : FaultPolicy) :
    (h.noted f p).haltLine f = h.haltLine f := by
  have hline : (h.noted f p).logger.line = h.logger.line := Logger.logAt_line _ _ _
  unfold haltLine
  rw [hline]
  rfl

/-- At the level of errors a fault is told iff it halts the host. -/
theorem noted_printed (hl : h.logger.threshold = .error) (f : Fault) (p : FaultPolicy) :
    (h.noted f p).logger.printed =
      if p = .halt then h.logger.printed.push (h.haltLine f) else h.logger.printed := by
  have hlevel : Logger.faultLevel p.name = if p = .halt then .error else .warning := by
    cases p <;> decide
  set counted : Logger := { h.logger with counts := h.logger.counts.count f }
  have hthreshold : counted.threshold = .error := hl
  show (counted.logAt (Logger.faultLevel p.name) _).printed = _
  rw [hlevel]
  split_ifs with hp
  · subst hp
    rw [Logger.log_of_prints (by rw [hthreshold])]
    rfl
  · rw [Logger.log_of_silent (by rw [hthreshold]; decide)]

theorem logReset_printed {l : Logger} (hl : l.threshold = .error) (seed : Value) :
    (l.logReset seed).printed = l.printed :=
  congrArg Logger.printed (Logger.log_of_silent (by rw [hl]; decide) _)

theorem handleFault_printed (hl : h.logger.threshold = .error) (f : Fault) :
    (h.handleFault f).logger.printed =
      if h.action = .halt then h.logger.printed.push (h.haltLine f) else h.logger.printed := by
  rw [← noted_printed hl f h.action]
  unfold handleFault
  cases h.action with
  | halt => rfl
  | skip => rfl
  | reset => exact logReset_printed ((h.threshold_noted f .reset).trans hl) _

/-- A fault has halted a host, and the log has told of it in one line. -/
structure HaltTold (g h : Host) : Prop where
  ongoing : g.halted = false
  halted : h.halted = true
  told : ∃ f, h.lastFault = some f ∧ h.logger.printed = g.logger.printed.push (h.haltLine f)

/-- At the level of errors a host has told what halted it since, and nothing else. -/
theorem kept_haltTold (g : Host) : Kept fun h => h.logger.threshold = .error ∧
    (g.HaltTold h ∨ h.halted = g.halted ∧ h.logger.printed = g.logger.printed) where
  attempt := by
    rintro h ⟨hl, htold⟩ hgo
    refine ⟨h.threshold_attempt.trans hl, ?_⟩
    obtain ⟨hhalted, hprinted⟩ : h.halted = g.halted ∧ h.logger.printed = g.logger.printed :=
      htold.resolve_left fun htold => Bool.false_ne_true (hgo.symm.trans htold.halted)
    cases hs : h.machine.step.fault with
    | none =>
      rw [attempt_of_ok hs]
      exact Or.inr ⟨hhalted, hprinted⟩
    | some f =>
      rw [attempt_of_fault hs]
      have hnoted := noted_printed hl f
      rw [hprinted] at hnoted
      rcases h.faulted_cases f with ⟨-, -, heq⟩ | ⟨-, -, heq⟩ | ⟨-, heq⟩
      · rw [heq]
        refine Or.inl ⟨hhalted.symm.trans hgo, rfl, f, rfl, (hnoted .halt).trans ?_⟩
        exact congrArg g.logger.printed.push (h.haltLine_noted f .halt).symm
      · rw [heq]
        exact Or.inr ⟨hhalted, hnoted .skip⟩
      · rw [heq]
        refine Or.inr ⟨hgo.symm.trans hhalted, ?_⟩
        exact (logReset_printed ((h.threshold_noted f .reset).trans hl) _).trans (hnoted .reset)
  receive := by
    rintro h ⟨hl, htold | hsame⟩ s
    · obtain ⟨f, hf, hprinted⟩ := htold.told
      exact ⟨hl, Or.inl ⟨htold.ongoing, htold.halted, f, hf, by rwa [haltLine_receive]⟩⟩
    · exact ⟨hl, Or.inr hsame⟩
  pend := fun ⟨hl, htold⟩ _ _ => ⟨hl, htold.imp (fun ht => { ht with }) id⟩
  countFrames := fun ⟨hl, htold⟩ _ _ => ⟨hl, htold.imp (fun ht => { ht with }) id⟩

/-- At the level of errors a request that halts the host prints one line, which tells of the
    fault, and no other request prints any. -/
theorem perform_at_error (hl : h.logger.threshold = .error) (o : HostOperation) :
    h.HaltTold (h.perform o).1 ∨
      (h.halted = false → (h.perform o).1.halted = false) ∧
        (h.perform o).1.logger.printed = h.logger.printed := by
  by_cases ho : o = .reset
  · subst ho
    exact Or.inr ⟨fun _ => rfl, logReset_printed hl _⟩
  · obtain ⟨-, htold⟩ := (h.kept_haltTold).performAll ⟨hl, Or.inr ⟨rfl, rfl⟩⟩ [o]
      fun hmem => absurd (List.mem_singleton.1 hmem).symm ho
    exact htold.imp id fun ⟨hhalted, hprinted⟩ => ⟨hhalted.trans, hprinted⟩

/-! ## From the start -/

/-- Two hosts that differ in their logs at most, which have counted the same faults. -/
structure SameButLog (g h : Host) : Prop extends g.Alike h where
  instructionCount : h.instructionCount = g.instructionCount
  frameCount : h.frameCount = g.frameCount
  faultCounts : h.logger.counts = g.logger.counts

theorem Raised.sameButLog (hgh : Raised level g h) : g.SameButLog h := by
  have halike := (raised_lockstep level).alike hgh
  obtain ⟨-, rfl⟩ := hgh
  exact { halike with instructionCount := rfl, frameCount := rfl, faultCounts := rfl }

theorem threshold_create {config : HostConfig} {rom : Rom} {logger : Logger} {name : Value}
    (hstart : create config rom logger name = .ok h) :
    h.logger.threshold = logger.threshold := by
  rw [create_eq hstart]
  exact (Logger.logAt_threshold _ _ _).trans (Logger.logAt_threshold _ _ _)

/-- The lines from the start tell of no fault. -/
theorem tellsAll_create {config : HostConfig} {rom : Rom} {logger : Logger} {name : Value}
    (hstart : create config rom logger name = .ok h)
    (hl : logger.threshold.rank ≤ LogLevel.warning.rank) (hcounts : logger.counts = {})
    (hprinted : logger.printed = #[]) : h.TellsAll := by
  have hreset : (logger.logReset config.given.seed).threshold = logger.threshold :=
    Logger.logAt_threshold _ _ _
  refine ⟨(threshold_create hstart).symm ▸ hl, ?_⟩
  rw [create_eq hstart]
  have htold : ((logger.logReset config.given.seed).logRomLoaded name (.int rom.length)).told =
      logger.told :=
    (Logger.told_logAt (hreset.symm ▸ hl) .info _).trans (Logger.told_logAt hl .info _)
  have hcounted : ((logger.logReset config.given.seed).logRomLoaded name
      (.int rom.length)).counts = logger.counts :=
    (Logger.log_counts _ _ _).trans (Logger.logReset_counts _ _)
  rw [htold, hcounted, hcounts, Logger.told, hprinted]
  rfl

/-- **The level of the log only filters.**  Two hosts whose loggers are made with the same
    settings but for a level that is as high or higher are both refused or both created, and
    after any requests they have given the same answers, differ in their logs at most, have
    counted the same faults, and the second has printed those lines of the first whose
    message reaches its level.  Of two such logs the one that prints warnings has told all
    the faults that the other one has counted.  At the level of errors a request prints a
    line iff it halts the host.  And whatever a logger prints, a host that meets a fault
    counts it, and at the level of errors tells of it iff it halts. -/
theorem level_only_filters (s : LoggerSettings) (now : Value) {level level' : LogLevel}
    (hle : level.rank ≤ level'.rank) (config : HostConfig) (rom : Rom) (name : Value) :
    (∃ logger logger',
      Logger.ofSettings { s with level := .text level.name } now = .ok logger ∧
      Logger.ofSettings { s with level := .text level'.name } now = .ok logger' ∧
      ((∃ e, create config rom logger name = .error e ∧
          create config rom logger' name = .error e) ∨
        ∃ start start', create config rom logger name = .ok start ∧
          create config rom logger' name = .ok start' ∧
          ∀ ops,
            let h := start.performAll ops
            let h' := start'.performAll ops
            start'.answers ops = start.answers ops ∧ h.SameButLog h' ∧
              h'.logger.printed = h.logger.printed.filter (·.reaches level') ∧
              (level.rank ≤ LogLevel.warning.rank →
                h'.logger.counts.total = h.logger.told) ∧
              (level' = .error → ∀ o,
                h'.HaltTold (h'.perform o).1 ∨
                  (h'.halted = false → (h'.perform o).1.halted = false) ∧
                    (h'.perform o).1.logger.printed = h'.logger.printed))) ∧
    ∀ (h : Host) (f : Fault),
      (h.handleFault f).logger.counts = h.logger.counts.count f ∧
        (h.logger.threshold = .error →
          (h.handleFault f).logger.printed =
            if h.action = .halt then h.logger.printed.push (h.haltLine f)
            else h.logger.printed) := by
  obtain ⟨logger, hlogger, rfl, hcounts, hprinted, hraised⟩ := Logger.ofSettings_name s now level
  refine ⟨⟨logger, logger.raised level', hlogger, hraised level', ?_⟩, fun h f =>
    ⟨h.handleFault_eq f ▸ (h.faulted_counts f).2.2, fun hl => handleFault_printed hl f⟩⟩
  rw [create_raised hle]
  cases hstart : create config rom logger name with
  | error e => exact Or.inl ⟨e, rfl, rfl⟩
  | ok start =>
    refine Or.inr ⟨start, start.raised level', rfl, rfl, fun ops => ?_⟩
    have hthreshold := threshold_create hstart
    obtain ⟨hgh, hanswers⟩ := (raised_lockstep level').performAll
      (h := start.raised level') ⟨hthreshold.symm ▸ hle, rfl⟩ ops fun _ _ _ => Raised.reset
    refine ⟨hanswers.symm, hgh.sameButLog, ?_, fun hl => ?_, fun herror o => ?_⟩
    · rw [hgh.2]
      rfl
    · have htold := (kept_told.performAll (tellsAll_create hstart hl hcounts hprinted) ops
        fun _ _ => TellsAll.reset).2
      rw [hgh.sameButLog.faultCounts, htold]
    · refine perform_at_error ?_ o
      rw [hgh.2]
      exact herror

/-- A program that skips a word which is no instruction and then leaves memory: of the four
    lines that are printed at the lowest level, one reaches the level of errors. -/
theorem level_only_filters_skip_then_halt :
    ∃ config logger logger' start start',
      HostConfig.ofSettings { faultPolicy := .text "skip" } = .ok config ∧
      Logger.ofSettings { timestamps := false, level := .text "DEBUG" } .null = .ok logger ∧
      Logger.ofSettings { timestamps := false, level := .text "ERROR" } .null = .ok logger' ∧
      create config [0xFF, 0xFF, 0x1F, 0xFF] logger .null = .ok start ∧
      create config [0xFF, 0xFF, 0x1F, 0xFF] logger' .null = .ok start' ∧
      let h := start.performAll [.run (.int 5)]
      let h' := start'.performAll [.run (.int 5)]
      h.logger.printed.size = 4 ∧ h'.logger.printed.size = 1 ∧ h'.halted = true ∧
        h'.logger.printed = h.logger.printed.filter (·.reaches .error) ∧
        h'.logger.counts.total = 2 := by
  obtain ⟨config, logger, start, hconfig, hlogger, hstart, hrun⟩ : ∃ config logger start,
      HostConfig.ofSettings { faultPolicy := .text "skip" } = .ok config ∧
      Logger.ofSettings { timestamps := false, level := .text "DEBUG" } .null = .ok logger ∧
      create config [0xFF, 0xFF, 0x1F, 0xFF] logger .null = .ok start ∧
      let h := start.performAll [.run (.int 5)]
      h.logger.printed.size = 4 ∧ (h.logger.printed.filter (·.reaches .error)).size = 1 ∧
        h.halted = true ∧ h.logger.told = 2 := by
    refine ⟨_, _, _, rfl, rfl, rfl, ?_⟩
    show let h := (runInstructions _ 5).1
      h.logger.printed.size = 4 ∧ (h.logger.printed.filter (·.reaches .error)).size = 1 ∧
        h.halted = true ∧ h.logger.told = 2
    rw [runInstructions_eq _ (by decide)]
    decide +kernel
  obtain ⟨hsize, herrors, hhalted, htold⟩ := hrun
  have hle : LogLevel.debug.rank ≤ LogLevel.error.rank := by decide
  obtain ⟨⟨_, logger', hdebug, herror, hcreated⟩, -⟩ :=
    level_only_filters { timestamps := false } .null hle config [0xFF, 0xFF, 0x1F, 0xFF] .null
  obtain rfl := Except.ok.inj (hlogger.symm.trans hdebug)
  rcases hcreated with ⟨e, hrefused, -⟩ | ⟨_, start', hsame, hstart', hops⟩
  · cases hstart.symm.trans hrefused
  · obtain rfl := Except.ok.inj (hstart.symm.trans hsame)
    obtain ⟨-, hdiffer, hprinted, htotal, -⟩ := hops [.run (.int 5)]
    exact ⟨config, logger, logger', start, start', hconfig, hlogger, herror, hstart, hstart',
      hsize, hprinted ▸ herrors, hdiffer.halted.trans hhalted, hprinted,
      (htotal (by decide)).trans htold⟩

end Host

end Chip8
