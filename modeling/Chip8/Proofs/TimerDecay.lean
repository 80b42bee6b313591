/-
  The timers — one tick for every frame.

  A host that is asked to run counts frames, and every frame it counts is one tick of both
  timers.  Instructions only set timers and never let them tick, so as long as none sets a
  timer, it has gone down by the frames that were counted, and stops at zero.

  * `Timer`, `Machine.timer`: the two timers by their names;
  * `History.Sets`: whether a timer was set by an instruction;
  * `Machine.timer_performAll`: a timer that is not set has gone down by the ticks;
  * `Host.InFrames`: as many frames are counted as there are ticks, whatever a host is asked
    to run (`inFrames_performAll`);
  * `Host.timers_decay_with_frames`: hence the timers after any such requests.
-/
import Chip8.Proofs.DisplayChange
import Chip8.Proofs.Halting

namespace Chip8

/-- The two timers. -/
inductive Timer where
  | delay
  | sound
deriving DecidableEq

/-- The timer that an instruction sets. -/
def Instruction.setTimer? : Instruction → Option Timer
  | setDelay _ => some .delay
  | setSound _ => some .sound
  | _ => none

/-- Whether an instruction that was performed has set a timer. -/
def History.Sets (h : History) (t : Timer) : Prop := ∃ e ∈ h, e.instruction.setTimer? = some t

instance (h : History) (t : Timer) : Decidable (h.Sets t) :=
  inferInstanceAs (Decidable (∃ e ∈ h, e.instruction.setTimer? = some t))

theorem History.sets_append {h h' : History} {t : Timer} :
    Sets (h ++ h') t ↔ h.Sets t ∨ h'.Sets t := by
  simp only [Sets, List.mem_append, or_and_right, exists_or]

/-- Whether an operation is a timer tick. -/
def Operation.isTick : Operation → Bool
  | stimulus .tick => true
  | _ => false

/-- How many timer ticks there are among operations. -/
def tickCount (ops : List Operation) : ℕ := ops.countP Operation.isTick

theorem tickCount_append (before after : List Operation) :
    tickCount (before ++ after) = tickCount before + tickCount after :=
  List.countP_append

/-! ## Machines -/

namespace Machine

/-- A timer of a machine. -/
def timer (m : Machine) : Timer → UInt8
  | .delay => m.delayTimer
  | .sound => m.soundTimer

variable {m : Machine} {t : Timer}

theorem timer_tickTimers (m : Machine) (t : Timer) : m.tickTimers.timer t = tick (m.timer t) := by
  cases t with
  | delay => rfl
  | sound => rfl

/-- An instruction changes no timer but the one it sets. -/
theorem timer_apply (m : Machine) {i : Instruction} (hi : i.setTimer? ≠ some t) :
    (m.apply i).timer t = m.timer t := by
  cases t with
  | delay =>
    have hdelay := m.apply_delayTimer i
    cases i with
    | setDelay x => exact absurd rfl hi
    | _ => exact hdelay
  | sound =>
    have hsound := m.apply_soundTimer i
    cases i with
    | setSound x => exact absurd rfl hi
    | _ => exact hsound

theorem timer_step (hset : ¬ m.executed.Sets t) : m.step.machine.timer t = m.timer t := by
  rcases m.next_cases with ⟨i, hi⟩ | ⟨f, hf⟩
  · rw [executed_of_ok hi] at hset
    rw [step_of_ok hi]
    exact m.advancePc.timer_apply fun hsets => hset ⟨_, List.mem_singleton_self _, hsets⟩
  · rw [step_of_error hf]

theorem timer_after (n : ℕ) (hset : ¬ (m.trail n).Sets t) : (m.after n).timer t = m.timer t := by
  induction n generalizing m with
  | zero => rfl
  | succ n ih =>
    rw [trail, History.sets_append, not_or] at hset
    exact (ih hset.2).trans (timer_step hset.1)

/-- A stimulus that is no tick leaves the timers alone. -/
theorem timer_receive (m : Machine) {s : Stimulus} (hs : s ≠ .tick) (t : Timer) :
    (m.receive s).timer t = m.timer t := by
  rcases m.receive_cases s with ⟨rfl, -⟩ | ⟨-, heq⟩ | ⟨keypad, heq⟩
  · exact absurd rfl hs
  · rw [heq]
    rfl
  · rw [heq]
    rfl

/-- An operation that is no tick, starts nothing anew and performs nothing that sets the timer. -/
theorem timer_perform {o : Operation} (ho : o.restarts = false) (htick : o.isTick = false)
    (hset : ¬ (m.executedBy o).Sets t) : (m.perform o).timer t = m.timer t := by
  rcases m.perform_cases ho with
    ⟨n, hmachine, hexecuted⟩ | ⟨-, ⟨s, rfl⟩ | ⟨memory, pc, hmachine⟩⟩
  · rw [hexecuted] at hset
    rw [hmachine]
    exact timer_after n hset
  · refine m.timer_receive ?_ t
    rintro rfl
    cases htick
  · rw [hmachine]
    rfl

/-- **A timer that is not set has gone down by the ticks**, and stops at zero. -/
theorem timer_performAll {ops : List Operation} (hops : ops.any Operation.restarts = false)
    (hset : ¬ (m.performed ops).Sets t) :
    ((m.performAll ops).timer t).toNat = (m.timer t).toNat - tickCount ops := by
  induction ops generalizing m with
  | nil => rfl
  | cons o ops ih =>
    rw [List.any_cons, Bool.or_eq_false_iff] at hops
    rw [performed, History.sets_append, not_or] at hset
    have hrest : (((m.perform o).performAll ops).timer t).toNat =
        ((m.perform o).timer t).toNat - tickCount ops := ih hops.2 hset.2
    show (((m.perform o).performAll ops).timer t).toNat = _
    rw [hrest, tickCount, tickCount, List.countP_cons]
    cases htick : o.isTick with
    | false =>
      rw [timer_perform hops.1 htick hset.1]
      rfl
    | true =>
      -- the only tick is the stimulus
      have hdown : ((m.perform o).timer t).toNat = (m.timer t).toNat - 1 := by
        cases o with
        | stimulus s =>
          cases s with
          | tick => exact (congrArg UInt8.toNat (m.timer_tickTimers t)).trans (toNat_tick _)
          | _ => cases htick
        | _ => cases htick
      rw [hdown, if_pos rfl]
      omega

end Machine

/-! ## Hosts -/

namespace Host

/-- **A frame for every tick**: what a host counts while its machine goes through operations. -/
def InFrames (h : Host) (ops : List Operation) (h' : Host) : Prop :=
  h'.frameCount = h.frameCount + tickCount ops

variable {h h' h'' : Host} {ops ops' : List Operation}

theorem InFrames.refl (h : Host) : h.InFrames [] h := rfl

theorem InFrames.trans (h₁ : h.InFrames ops h') (h₂ : h'.InFrames ops' h'') :
    h.InFrames (ops ++ ops') h'' := by
  rw [InFrames, h₂, h₁, tickCount_append, Nat.add_assoc]

/-- An attempt neither counts a frame nor lets a timer tick. -/
theorem inFrames_attempt (h : Host) : h.InFrames h.attemptOperations h.attempt.1 := by
  have hreaction : tickCount h.reaction = 0 := by
    unfold reaction
    split <;> rfl
  unfold InFrames attemptOperations
  cases hs : h.machine.step.fault with
  | none =>
    rw [attempt_of_ok hs]
    rfl
  | some f =>
    have hnone : tickCount (.step :: h.reaction) = 0 := hreaction
    rw [attempt_of_fault hs, (h.faulted_counts f).2.1]
    exact (congrArg (h.frameCount + ·) hnone).symm

theorem inFrames_oneByOne (h : Host) (n : ℕ) :
    h.InFrames (h.batchOperations n) (h.oneByOne n).1 := by
  induction n generalizing h with
  | zero => exact .refl h
  | succ n ih =>
    rw [batchOperations, oneByOne]
    split_ifs
    · exact .refl h
    · exact h.inFrames_attempt.trans (ih h.attempt.1)

theorem inFrames_runInstructions (h : Host) (count : ℤ) :
    h.InFrames (h.instructionOperations count) (h.runInstructions count).1 := by
  unfold instructionOperations runInstructions
  split_ifs
  · exact .refl h
  · rw [attempts_eq_oneByOne]
    exact h.inFrames_oneByOne count.toNat

/-- Frames that are finished are counted, and each of them is a tick. -/
theorem inFrames_finishFrames (h : Host) (frames : ℤ) :
    h.InFrames (h.frameOperations frames) (h.finishFrames frames) := by
  unfold frameOperations finishFrames
  split_ifs
  · exact .refl h
  · have hticks : tickCount (ticks frames) = frames.toNat := by
      rw [tickCount, ticks, List.countP_replicate]
      rfl
    rw [InFrames, hticks]

theorem inFrames_runThenFinish (h : Host) (count frames : ℤ) :
    h.InFrames (h.runThenFinishOperations count frames) (h.runThenFinish count frames).1 := by
  have hrun := h.inFrames_runInstructions count
  unfold runThenFinishOperations runThenFinish
  generalize h.runInstructions count = x at hrun
  obtain ⟨h', r⟩ := x
  cases r with
  | ok changed => exact hrun.trans (h'.inFrames_finishFrames frames)
  | error e => exact hrun.trans (.refl h')

theorem inFrames_advance (h : Host) (elapsed : Number) :
    h.InFrames (h.advanceOperations elapsed) (h.advance elapsed).1 := by
  rw [advance_eq]
  unfold advanceOperations
  cases (h.instructionClock.advance elapsed).2 with
  | error e => exact .refl h
  | ok count =>
    cases (h.timerClock.advance elapsed).2 with
    | error e => exact .refl h
    | ok ticks => exact inFrames_runThenFinish (h.pend _ _) count ticks

/-- **Asked to run, a host counts a frame for every tick.** -/
theorem inFrames_perform (h : Host) {o : HostOperation} (ho : o.runs = true) :
    h.InFrames (h.operations o) (h.perform o).1 := by
  cases o with
  | frame =>
    show h.InFrames _ h.runFrame.1
    rw [runFrame_eq]
    exact h.inFrames_runThenFinish _ 1
  | advance elapsed =>
    show h.InFrames _ (h.advanceValue elapsed).1
    rw [operations, advanceValue]
    cases elapsed.compared "<" with
    | error e => exact .refl h
    | ok n => exact h.inFrames_advance n
  | run count =>
    show h.InFrames _ (h.runValue count).1
    rw [operations, runValue]
    cases count.compared ">" with
    | error e => exact .refl h
    | ok n =>
      cases n with
      | int n => exact h.inFrames_runInstructions n
      | real x =>
        simp only [attempts_eq_oneByOne]
        exact h.inFrames_oneByOne _
  | tick | keys | acknowledge | reset => cases ho

theorem inFrames_performAll (h : Host) {requests : List HostOperation}
    (hruns : ∀ o ∈ requests, o.runs = true) :
    h.InFrames (h.operationsAll requests) (h.performAll requests) := by
  induction requests generalizing h with
  | nil => exact .refl h
  | cons o requests ih =>
    have ho := h.inFrames_perform (hruns o List.mem_cons_self)
    exact ho.trans (ih (h.perform o).1 fun o ho => hruns o (List.mem_cons_of_mem _ ho))

/-- **The timers go down by one for every frame that is counted.**  Let any host be asked to
    run frames, time and instructions, with any arguments, and let the program not be started
    again meanwhile.  A timer that no instruction has set is at the end what it was less the
    frames counted since, or zero if these are more, and the tone is on if the sound timer was
    above that number.  This holds all the way: whatever has been done so far, the timer is
    what it was less the ticks so far. -/
theorem timers_decay_with_frames (h : Host) {requests : List HostOperation}
    (hruns : ∀ o ∈ requests, o.runs = true) (hstays : ¬ h.StartedAgain requests) :
    let ops := h.operationsAll requests
    let h' := h.performAll requests
    h'.frameCount = h.frameCount + tickCount ops ∧
      (¬ (h.machine.performed ops).Sets .delay →
        (h'.machine.delayTimer.toNat : ℤ) =
          max 0 (h.machine.delayTimer.toNat - (h'.frameCount - h.frameCount))) ∧
      (¬ (h.machine.performed ops).Sets .sound →
        (h'.machine.soundTimer.toNat : ℤ) =
            max 0 (h.machine.soundTimer.toNat - (h'.frameCount - h.frameCount)) ∧
          (h'.machine.beeping = true ↔
            h'.frameCount - h.frameCount < h.machine.soundTimer.toNat)) ∧
      ∀ t, ¬ (h.machine.performed ops).Sets t →
        ∀ before after, ops = before ++ after →
          ((h.machine.performAll before).timer t).toNat =
            (h.machine.timer t).toNat - tickCount before := by
  intro ops h'
  have hframes : h'.frameCount = h.frameCount + tickCount ops := h.inFrames_performAll hruns
  have hops : ops.any Operation.restarts = false := by
    rw [startedAgain_iff, Bool.not_eq_true] at hstays
    exact hstays
  have hmachine : h'.machine = h.machine.performAll ops := h.machine_performAll requests
  have htimer : ∀ t, ¬ (h.machine.performed ops).Sets t →
      (h'.machine.timer t).toNat = (h.machine.timer t).toNat - tickCount ops := by
    intro t hset
    rw [hmachine]
    exact Machine.timer_performAll hops hset
  refine ⟨hframes, fun hset => ?_, fun hset => ?_, fun t hset before after hsplit => ?_⟩
  · have hdelay : h'.machine.delayTimer.toNat = h.machine.delayTimer.toNat - tickCount ops :=
      htimer .delay hset
    omega
  · have hsound : h'.machine.soundTimer.toNat = h.machine.soundTimer.toNat - tickCount ops :=
      htimer .sound hset
    have hbeep : h'.machine.beeping = true ↔ h'.machine.soundTimer.toNat ≠ 0 := by
      rw [Machine.beeping, bne_iff_ne, Ne, Ne, ← UInt8.toNat_inj]
      rfl
    refine ⟨by omega, ?_⟩
    rw [hbeep]
    omega
  · -- what is done at first neither starts anything anew nor sets the timer either
    rw [hsplit, List.any_append, Bool.or_eq_false_iff] at hops
    rw [hsplit, Machine.performed_append, History.sets_append, not_or] at hset
    exact Machine.timer_performAll hops.1 hset.1

/-- A program that sets both timers to five and then only jumps, at one instruction for each
    frame: two frames with one more instruction in between. -/
theorem timers_decay_with_frames_twice :
    ∃ config logger start,
      HostConfig.ofSettings { instructionFrequency := .int 60 } = .ok config ∧
      Logger.ofSettings {} .null = .ok logger ∧
      create config [0x60, 0x05, 0xF0, 0x15, 0xF0, 0x18, 0x12, 0x06] logger .null = .ok start ∧
      let set := start.performAll [.run (.int 3)]
      set.machine.delayTimer = 5 ∧
        (set.performAll [.frame, .run (.int 1), .frame]).machine.delayTimer.toNat = 3 := by
  obtain ⟨config, logger, start, hconfig, hlogger, hstart, hpolicy, hset, hframes, hdelay⟩ :
      ∃ config logger start,
        HostConfig.ofSettings { instructionFrequency := .int 60 } = .ok config ∧
        Logger.ofSettings {} .null = .ok logger ∧
        create config [0x60, 0x05, 0xF0, 0x15, 0xF0, 0x18, 0x12, 0x06] logger .null = .ok start ∧
        let set := start.performAll [.run (.int 3)]
        set.config.policy = .halt ∧
          ¬ (set.machine.performed
            (set.operationsAll [.frame, .run (.int 1), .frame])).Sets .delay ∧
          (set.performAll [.frame, .run (.int 1), .frame]).frameCount = set.frameCount + 2 ∧
          set.machine.delayTimer = 5 :=
    ⟨_, _, _, rfl, rfl, rfl, by decide +kernel⟩
  refine ⟨config, logger, start, hconfig, hlogger, hstart, hdelay, ?_⟩
  have hstays : ¬ (start.performAll [.run (.int 3)]).StartedAgain
      [.frame, .run (.int 1), .frame] := by
    rintro (hmem | ⟨hsame, -⟩)
    · simp at hmem
    · rw [hpolicy] at hsame
      cases hsame
  have hresult := (timers_decay_with_frames _ (by simp [HostOperation.runs]) hstays).2.1 hset
  rw [hframes, hdelay] at hresult
  have hfive : (5 : UInt8).toNat = 5 := rfl
  omega

end Host

end Chip8
