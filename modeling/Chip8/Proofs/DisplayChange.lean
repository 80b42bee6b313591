/-
  The display — whether it has changed.

  That the display was drawn to is told twice: by the note that the machine keeps, and by
  the answer of a host that ran instructions.  Both tell of the instructions that draw or
  clear.  A restart blanks the display without telling either.

  * `Redraws`: the note and the display after a history, which steps, runs and whatever
    else does not restart the machine conform to (`redraws_performAll`);
  * `blank_of_restarted`: since the last restart as well;
  * `Host.draws_of_answer`: the answer of a host is whether something was drawn;
  * `Host.display_of_clean`: hence a display that was not noted as drawn to is the one that
    was shown, unless the program was started again, and then it is blank;
  * `Host.stale_after_restart`: and then the one that was shown may be another.
-/
import Chip8.Proofs.HostTrace

namespace Chip8

/-- Whether something was drawn or cleared. -/
def History.draws (h : History) : Bool := h.any (·.instruction.draws)

theorem History.draws_append (h h' : History) : draws (h ++ h') = (h.draws || h'.draws) :=
  List.any_append

/-! ## Machines -/

namespace Machine

/-- **The display after a history**: it is noted as drawn to if it was before or something
    was drawn since, and is the same if nothing was drawn. -/
structure Redraws (m : Machine) (h : History) (m' : Machine) : Prop where
  displayDirty : m'.displayDirty = (m.displayDirty || h.draws)
  display : h.draws = false → m'.display = m.display

namespace Redraws

variable {m m' m'' : Machine} {h h' : History}

/-- Nothing is performed that draws, and neither the note nor the display is touched. -/
theorem still (hdirty : m'.displayDirty = m.displayDirty) (hdisplay : m'.display = m.display) :
    m.Redraws [] m' where
  displayDirty := hdirty.trans (Bool.or_false _).symm
  display := fun _ => hdisplay

theorem refl (m : Machine) : m.Redraws [] m := still rfl rfl

theorem trans (h₁ : m.Redraws h m') (h₂ : m'.Redraws h' m'') : m.Redraws (h ++ h') m'' where
  displayDirty := by
    rw [h₂.displayDirty, h₁.displayDirty, History.draws_append, Bool.or_assoc]
  display := by
    intro hnone
    rw [History.draws_append, Bool.or_eq_false_iff] at hnone
    exact (h₂.display hnone.2).trans (h₁.display hnone.1)

/-- A display that is not noted as drawn to at the end is the one there was. -/
theorem eq_of_clean (hr : m.Redraws h m') (hclean : m'.displayDirty = false) :
    m'.display = m.display := by
  rw [hr.displayDirty, Bool.or_eq_false_iff] at hclean
  exact hr.display hclean.2

end Redraws

variable {m : Machine}

/-- A step reports what it draws. -/
theorem displayChanged_step (m : Machine) : m.step.displayChanged = m.executed.draws := by
  rcases m.next_cases with ⟨i, hi⟩ | ⟨f, hf⟩
  · rw [step_of_ok hi, executed_of_ok hi]
    exact (Bool.or_false _).symm
  · rw [step_of_error hf, executed_of_error hf]
    rfl

theorem redraws_step (m : Machine) : m.Redraws m.executed m.step.machine := by
  rcases m.next_cases with ⟨i, hi⟩ | ⟨f, hf⟩
  · have hdraws : m.executed.draws = i.draws := by
      rw [← displayChanged_step, step_of_ok hi]
    refine ⟨?_, fun hnone => ?_⟩
    · rw [hdraws, step_of_ok hi]
      exact m.advancePc.apply_displayDirty i
    · have hdisplay := m.advancePc.apply_display i
      rw [hdraws] at hnone
      rw [step_of_ok hi]
      cases i with
      | clear | draw x y n => cases hnone
      | _ => exact hdisplay
  · rw [step_of_error hf, executed_of_error hf]
    exact .refl m

theorem redraws_after (m : Machine) (n : ℕ) : m.Redraws (m.trail n) (m.after n) := by
  induction n generalizing m with
  | zero => exact .refl m
  | succ n ih => exact m.redraws_step.trans (ih m.step.machine)

/-- Whatever does not restart the machine, and does not tell it that the display was shown. -/
theorem redraws_perform (m : Machine) {o : Operation} (ho : o.restarts = false)
    (hack : o ≠ .stimulus .acknowledge) : m.Redraws (m.executedBy o) (m.perform o) := by
  rcases m.perform_cases ho with
    ⟨n, hmachine, hexecuted⟩ | ⟨hexecuted, ⟨s, rfl⟩ | ⟨memory, pc, hmachine⟩⟩
  · rw [hmachine, hexecuted]
    exact m.redraws_after n
  · have hdisplay : (m.receive s).display = m.display := by rw [receive_eq]
    have hdirty : (m.receive s).displayDirty = m.displayDirty :=
      m.receive_displayDirty fun hs => hack (congrArg Operation.stimulus hs)
    rw [hexecuted]
    exact .still hdirty hdisplay
  · rw [hmachine, hexecuted]
    exact .still rfl rfl

theorem redraws_performAll (m : Machine) {ops : List Operation}
    (hops : ops.any Operation.restarts = false) (hack : .stimulus .acknowledge ∉ ops) :
    m.Redraws (m.performed ops) (m.performAll ops) := by
  induction ops generalizing m with
  | nil => exact .refl m
  | cons o ops ih =>
    rw [List.any_cons, Bool.or_eq_false_iff] at hops
    rw [List.mem_cons, not_or] at hack
    exact (m.redraws_perform hops.1 (Ne.symm hack.1)).trans (ih (m.perform o) hops.2 hack.2)

/-- A restart blanks the display. -/
theorem blank_of_restarts (m : Machine) {o : Operation} (ho : o.restarts = true) :
    (m.perform o).display = .blank := by
  cases o with
  | reset => rw [perform, reset, powerOn]
  | restart config rom => rfl
  | _ => cases ho

/-- The last restart among several operations. -/
theorem exists_last_restart {ops : List Operation} (h : ops.any Operation.restarts = true) :
    ∃ before o after, ops = before ++ o :: after ∧ o.restarts = true ∧
      after.any Operation.restarts = false := by
  induction ops with
  | nil => cases h
  | cons o ops ih =>
    cases hops : ops.any Operation.restarts with
    | true =>
      obtain ⟨before, r, after, rfl, hr, hafter⟩ := ih hops
      exact ⟨o :: before, r, after, rfl, hr, hafter⟩
    | false =>
      rw [List.any_cons, hops, Bool.or_false] at h
      exact ⟨[], o, ops, rfl, h, hops⟩

/-- **After a restart the display is blank**, if nothing was drawn, or nothing is noted as
    drawn at the end. -/
theorem blank_of_restarted (m : Machine) {ops : List Operation}
    (hops : ops.any Operation.restarts = true) (hack : .stimulus .acknowledge ∉ ops)
    (hquiet : (m.performed ops).draws = false ∨ (m.performAll ops).displayDirty = false) :
    (m.performAll ops).display = .blank := by
  obtain ⟨before, o, after, rfl, ho, hafter⟩ := exists_last_restart hops
  rw [List.mem_append, List.mem_cons, not_or, not_or] at hack
  -- what counts is what was done since the last restart
  have hblank := (m.performAll before).blank_of_restarts ho
  have hall : m.performAll (before ++ o :: after) =
      ((m.performAll before).perform o).performAll after := by
    rw [performAll, performAll, performAll, List.foldl_append]
    rfl
  have hredraws := ((m.performAll before).perform o).redraws_performAll hafter hack.2.2
  rw [hall] at hquiet ⊢
  rw [← hblank]
  rcases hquiet with hnone | hclean
  · rw [performed_append, performed, History.draws_append, History.draws_append,
      Bool.or_eq_false_iff, Bool.or_eq_false_iff] at hnone
    exact hredraws.display hnone.2.2
  · exact hredraws.eq_of_clean hclean

end Machine

/-! ## Hosts -/

namespace Host

variable {h : Host}

/-- An answer that instructions were run says whether something was drawn. -/
def Tells (h : Host) (ops : List Operation) (answer : Except Error Bool) : Prop :=
  ∀ changed, answer = .ok changed → (h.machine.performed ops).draws = changed

theorem tells_oneByOne (h : Host) (n : ℕ) :
    (h.machine.performed (h.batchOperations n)).draws = (h.oneByOne n).2 := by
  induction n generalizing h with
  | zero => rfl
  | succ n ih =>
    rw [batchOperations, oneByOne]
    split_ifs
    · rfl
    · rw [Machine.performed_append, History.draws_append, h.performed_attempt, attempt_snd,
        Machine.displayChanged_step, ← h.through_attempt.machine, ih]

theorem tells_runInstructions (h : Host) (count : ℤ) :
    h.Tells (h.instructionOperations count) (h.runInstructions count).2 := by
  intro changed
  unfold instructionOperations runInstructions
  split_ifs
  · exact nofun
  · rw [attempts_eq_oneByOne]
    rintro ⟨⟩
    exact h.tells_oneByOne count.toNat

theorem tells_runThenFinish (h : Host) (count frames : ℤ) :
    h.Tells (h.runThenFinishOperations count frames) (h.runThenFinish count frames).2 := by
  have hanswer : (h.runThenFinish count frames).2 = (h.runInstructions count).2 := by
    unfold runThenFinish
    generalize h.runInstructions count = x
    obtain ⟨h', r⟩ := x
    cases r with
    | ok changed => rfl
    | error e => rfl
  intro changed hchanged
  rw [performed_runThenFinish]
  exact h.tells_runInstructions count changed (hanswer ▸ hchanged)

theorem tells_advance (h : Host) (elapsed : Number) :
    h.Tells (h.advanceOperations elapsed) (h.advance elapsed).2 := by
  rw [advance_eq]
  unfold advanceOperations
  cases (h.instructionClock.advance elapsed).2 with
  | error e => exact nofun
  | ok count =>
    cases (h.timerClock.advance elapsed).2 with
    | error e => exact nofun
    | ok ticks => exact tells_runThenFinish (h.pend _ _) count ticks

theorem tells_runValue (h : Host) (count : Value) :
    h.Tells (h.operations (.run count)) (h.runValue count).2 := by
  intro changed hchanged
  rw [operations]
  unfold runValue at hchanged
  cases hcount : count.compared ">" with
  | error e =>
    rw [hcount] at hchanged
    cases hchanged
  | ok n =>
    rw [hcount] at hchanged
    cases n with
    | int n => exact h.tells_runInstructions n changed hchanged
    | real x =>
      simp only [attempts_eq_oneByOne] at hchanged
      cases hchanged
      exact h.tells_oneByOne _

/-- **The answer of a host is whether something was drawn** or cleared. -/
theorem draws_of_answer {o : HostOperation} {changed : Bool}
    (hanswer : (h.perform o).2 = .ok (some changed)) :
    (h.machine.performed (h.operations o)).draws = changed := by
  have hanswered : ∀ {r : Host × Except Error Bool}, (answered r).2 = .ok (some changed) →
      r.2 = .ok changed := by
    rintro ⟨h', r⟩ hr
    cases r with
    | ok c => cases hr; rfl
    | error e => cases hr
  have haccepted : ∀ r, (h.accepted r).2 ≠ .ok (some changed) := by
    intro r
    cases r <;> exact nofun
  cases o with
  | frame =>
    refine h.tells_runThenFinish h.config.instructionsPerFrame 1 changed ?_
    rw [← runFrame_eq]
    exact hanswered hanswer
  | advance elapsed =>
    have hadvance : (h.advanceValue elapsed).2 = .ok changed := hanswered hanswer
    rw [operations]
    unfold advanceValue at hadvance
    cases hn : elapsed.compared "<" with
    | error e => rw [hn] at hadvance; cases hadvance
    | ok n =>
      rw [hn] at hadvance
      exact h.tells_advance n changed hadvance
  | run count => exact h.tells_runValue count changed (hanswered hanswer)
  | tick n => exact absurd hanswer (haccepted _)
  | keys s => exact absurd hanswer (haccepted _)
  | acknowledge => cases hanswer
  | reset => cases hanswer

/-- The program was started again while requests were met: on request, or about a fault. -/
def StartedAgain (h : Host) (requests : List HostOperation) : Prop :=
  .reset ∈ requests ∨
    h.config.policy = .reset ∧ h.faultsMet < (h.performAll requests).faultsMet

theorem startedAgain_iff (h : Host) (requests : List HostOperation) :
    h.StartedAgain requests ↔ (h.operationsAll requests).any Operation.restarts = true :=
  (h.through_performAll requests).restarted.symm

/-- What becomes of the display if nothing was drawn, or nothing is noted as drawn at the end. -/
theorem display_of_quiet (h : Host) {requests : List HostOperation}
    (hack : .acknowledge ∉ requests)
    (hquiet : (h.machine.performed (h.operationsAll requests)).draws = false ∨
      (h.performAll requests).machine.displayDirty = false) :
    (¬ h.StartedAgain requests → (h.performAll requests).machine.display = h.machine.display) ∧
      (h.StartedAgain requests → (h.performAll requests).machine.display = .blank) := by
  have hnone : .stimulus .acknowledge ∉ h.operationsAll requests :=
    mt (h.through_performAll requests).acknowledged hack
  rw [machine_performAll] at hquiet ⊢
  rw [startedAgain_iff, Bool.not_eq_true]
  refine ⟨fun hstays => ?_, fun hagain => h.machine.blank_of_restarted hagain hnone hquiet⟩
  have hredraws := h.machine.redraws_performAll hstays hnone
  rcases hquiet with hdraws | hclean
  · exact hredraws.display hdraws
  · exact hredraws.eq_of_clean hclean

/-- **A display that is not noted as drawn to is the one that was shown.**  Let any host, so
    also one that is new or whose display has just been acknowledged, be asked anything but
    to acknowledge the display.  If the display is not noted as drawn to afterwards, it is
    the one from before, unless the program was started again: then it is blank.  The same
    holds of a single request that is answered by saying that nothing was drawn. -/
theorem display_of_clean :
    (∀ (h : Host) (requests : List HostOperation), .acknowledge ∉ requests →
      (h.performAll requests).machine.displayDirty = false →
        (¬ h.StartedAgain requests →
          (h.performAll requests).machine.display = h.machine.display) ∧
        (h.StartedAgain requests → (h.performAll requests).machine.display = .blank)) ∧
    ∀ (h : Host) (o : HostOperation), (h.perform o).2 = .ok (some false) →
      (¬ h.StartedAgain [o] → (h.perform o).1.machine.display = h.machine.display) ∧
        (h.StartedAgain [o] → (h.perform o).1.machine.display = .blank) := by
  refine ⟨fun h requests hack hclean => h.display_of_quiet hack (Or.inr hclean), ?_⟩
  intro h o hanswer
  have hack : HostOperation.acknowledge ∉ [o] := by
    rw [List.mem_singleton]
    rintro rfl
    cases hanswer
  refine h.display_of_quiet hack (Or.inl ?_)
  rw [operationsAll, operationsAll, List.append_nil]
  exact draws_of_answer hanswer

/-- A program that draws a digit and goes on without drawing: a frame leaves the display as it
    was acknowledged, and after a reset it is blank. -/
theorem display_of_clean_digit :
    ∃ config logger start, HostConfig.ofSettings {} = .ok config ∧
      Logger.ofSettings {} .null = .ok logger ∧
      create config [0xD0, 0x05, 0x12, 0x02] logger .null = .ok start ∧
      let shown := start.performAll [.run (.int 1), .acknowledge]
      (shown.performAll [.frame]).machine.display = shown.machine.display ∧
        (shown.performAll [.reset]).machine.display = .blank := by
  obtain ⟨config, logger, start, hconfig, hlogger, hstart, hpolicy, hframe, hreset⟩ :
      ∃ config logger start, HostConfig.ofSettings {} = .ok config ∧
        Logger.ofSettings {} .null = .ok logger ∧
        create config [0xD0, 0x05, 0x12, 0x02] logger .null = .ok start ∧
        let shown := start.performAll [.run (.int 1), .acknowledge]
        shown.config.policy = .halt ∧
          (shown.performAll [.frame]).machine.displayDirty = false ∧
          (shown.performAll [.reset]).machine.displayDirty = false :=
    ⟨_, _, _, rfl, rfl, rfl, by decide +kernel, by decide +kernel, by decide +kernel⟩
  refine ⟨config, logger, start, hconfig, hlogger, hstart, ?_, ?_⟩
  · refine (display_of_clean.1 _ _ (by simp) hframe).1 ?_
    rintro (hmem | ⟨hsame, -⟩)
    · simp at hmem
    · rw [hpolicy] at hsame
      cases hsame
  · exact (display_of_clean.1 _ _ (by simp) hreset).2 (Or.inl (List.mem_singleton_self _))

/-- **After a restart the display that was shown is out of date**, with nothing to tell of
    it: the digit that was acknowledged is gone after a reset, and gone by a run that is
    answered by saying that nothing was drawn, if a fault restarts the program. -/
theorem stale_after_restart :
    (∃ config logger start, HostConfig.ofSettings {} = .ok config ∧
      Logger.ofSettings {} .null = .ok logger ∧
      create config [0xD0, 0x05, 0x12, 0x02] logger .null = .ok start ∧
      let shown := start.performAll [.run (.int 1), .acknowledge]
      (shown.performAll [.reset]).machine.displayDirty = false ∧
        (shown.performAll [.reset]).machine.display ≠ shown.machine.display) ∧
    ∃ config logger start, HostConfig.ofSettings { faultPolicy := .text "reset" } = .ok config ∧
      Logger.ofSettings {} .null = .ok logger ∧
      create config [0xD0, 0x05, 0xFF, 0xFF] logger .null = .ok start ∧
      let drawn := start.performAll [.run (.int 1)]
      (drawn.perform (.run (.int 1))).2 = .ok (some false) ∧
        (drawn.perform (.run (.int 1))).1.machine.display ≠ drawn.machine.display := by
  have hanswer : ∀ {answer : Answer}, answer.toOption = some (some false) →
      answer = .ok (some false) := by
    rintro (e | changed) h
    · cases h
    · cases h
      rfl
  refine ⟨⟨_, _, _, rfl, rfl, rfl, ?_⟩, ⟨_, _, _, rfl, rfl, rfl, hanswer ?_, ?_⟩⟩
  · decide +kernel
  · decide +kernel
  · decide +kernel

end Host

end Chip8
