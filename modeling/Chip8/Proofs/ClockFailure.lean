/-
  Hosts — time that cannot be turned into ticks.

  A clock that fails has either refused the time, and then is as it was, or has counted it.
  What is pending is no finite number then, and whatever is added to it is none either: the
  clock fails on any time from there on, until it is reset.

  * `Binary64.truncate_add`: a sum with an infinity or a NaN cannot be truncated;
  * `Clock.Refuses`, `Clock.Stuck`: the two ways to fail, of which the second lasts
    (`Clock.Stuck.advance`, `Clock.Stuck.advanceAll`);
  * `Host.advance_of_first`, `Host.advance_of_second`: what a host is left with when one of
    its clocks fails;
  * `Host.failed_advance`: all of it;
  * `Host.failed_advance_lasts`: a clock and two hosts on which the time was counted.
-/
import Chip8.Proofs.HostOperations
import Mathlib

namespace Chip8

/-! ## Doubles that are not finite -/

namespace Binary64

open Float.Model (UnpackedFloat)
open Float.Model.UnpackedFloat
open Float.Model.Format (binary64)

/-- A NaN or an infinity. -/
def IsOutside (u : UnpackedFloat) : Prop := u = .notANumber ∨ ∃ s, u = .infinity s

theorem isOutside_unpack_iff (b : BitVec binary64.numBits) :
    IsOutside (unpack binary64 b) ↔ unpackExponent b = -1#11 := by
  unfold unpack IsOutside
  dsimp only
  split_ifs <;> simp_all

theorem unpackExponent_pack {u : UnpackedFloat} (hu : IsOutside u) :
    unpackExponent (pack binary64 u) = -1#11 := by
  rcases hu with rfl | ⟨s, rfl⟩
  · exact unpackExponent_packComponents
  · exact unpackExponent_packComponents

/-- The opposite infinity makes an infinity a NaN; any other number leaves it. -/
theorem IsOutside.add {u : UnpackedFloat} (hu : IsOutside u) (v : UnpackedFloat) :
    IsOutside (add binary64 u v) := by
  rcases hu with rfl | ⟨s, rfl⟩
  · cases v <;> exact Or.inl rfl
  · cases v with
    | infinity t =>
      cases s <;> cases t
      · exact Or.inr ⟨_, rfl⟩
      · exact Or.inl rfl
      · exact Or.inl rfl
      · exact Or.inr ⟨_, rfl⟩
    | notANumber => exact Or.inl rfl
    | zero | finite => exact Or.inr ⟨_, rfl⟩

theorem toNat_unpackExponent (b : BitVec binary64.numBits) :
    (unpackExponent b).toNat = b.toNat / 2 ^ 52 % 2 ^ 11 := by
  simp [unpackExponent, Nat.shiftRight_eq_div_pow]

/-- A double has no integer part iff all bits of its exponent are set. -/
theorem truncate_eq_error_iff (x : Float) :
    (∃ e, Number.truncate x = .error e) ↔
      IsOutside (unpack binary64 x.toModel.toBits.toBitVec) := by
  have hexponent : x.toBits.toNat / .pow 2 52 % .pow 2 11 = 2047 ↔
      IsOutside (unpack binary64 x.toModel.toBits.toBitVec) := by
    rw [isOutside_unpack_iff, ← BitVec.toNat_inj, toNat_unpackExponent]
    rfl
  rw [← hexponent]
  unfold Number.truncate ofFloat
  simp only
  split_ifs <;> simp_all

/-- **What is added to a NaN or an infinity** does not make it finite. -/
theorem truncate_add {x : Float} (hx : ∃ e, Number.truncate x = .error e) (y : Float) :
    ∃ e, Number.truncate (x + y) = .error e := by
  rw [truncate_eq_error_iff] at hx
  rw [truncate_eq_error_iff, isOutside_unpack_iff]
  exact unpackExponent_pack (hx.add _)

end Binary64

/-! ## Clocks -/

instance {α : Type} (x : Except Error α) : Decidable (∃ e, x = .error e) :=
  match x with
  | .error e => .isTrue ⟨e, rfl⟩
  | .ok _ => .isFalse nofun

instance {α : Type} (x : Except Error α) : Decidable (∃ a, x = .ok a) :=
  match x with
  | .error _ => .isFalse nofun
  | .ok a => .isTrue ⟨a, rfl⟩

namespace Clock

section
variable {τ : Type} [Timebase τ] {c : Clock τ} {elapsed : τ}

/-- Time that is refused before it is counted: it is negative, or its ticks are too many for
    a part of a tick. -/
def Refuses (c : Clock τ) (elapsed : τ) : Prop :=
  Timebase.isNegative elapsed = true ∨
    ∃ e, Timebase.accrue c.pending elapsed c.frequency = .error e

/-- What is pending cannot be turned into ticks. -/
def Stuck (c : Clock τ) : Prop := ∃ e, Timebase.whole c.pending = .error e

instance (c : Clock τ) (elapsed : τ) : Decidable (c.Refuses elapsed) :=
  inferInstanceAs (Decidable (_ ∨ _))

instance (c : Clock τ) : Decidable c.Stuck := inferInstanceAs (Decidable (∃ _, _))

theorem advance_of_refuses (h : c.Refuses elapsed) : ∃ e, c.advance elapsed = (c, .error e) := by
  unfold advance
  split_ifs with hneg
  · exact ⟨_, rfl⟩
  · obtain ⟨e, he⟩ := h.resolve_left hneg
    rw [he]
    exact ⟨e, rfl⟩

theorem advance_fst_of_refuses (h : c.Refuses elapsed) : (c.advance elapsed).1 = c := by
  obtain ⟨e, he⟩ := advance_of_refuses h
  rw [he]

/-- Time that is counted. -/
theorem advance_of_counted (h : ¬ c.Refuses elapsed) :
    ∃ p, Timebase.accrue c.pending elapsed c.frequency = .ok p ∧
      c.advance elapsed =
        match Timebase.whole p with
        | .error e => ({ c with pending := p }, .error e)
        | .ok ticks => ({ c with pending := Timebase.minus p ticks }, .ok ticks) := by
  obtain ⟨hneg, hcounts⟩ := not_or.1 h
  cases hp : Timebase.accrue c.pending elapsed c.frequency with
  | error e => exact absurd ⟨e, hp⟩ hcounts
  | ok p =>
    refine ⟨p, rfl, ?_⟩
    cases hwhole : Timebase.whole p with
    | error e => simp only [advance, if_neg hneg, hp, hwhole]
    | ok ticks => simp only [advance, if_neg hneg, hp, hwhole]

/-- **A clock that fails on time it has counted is stuck**, with that time pending. -/
theorem stuck_of_counted (h : ¬ c.Refuses elapsed) {e : Error}
    (hfail : (c.advance elapsed).2 = .error e) :
    (c.advance elapsed).1.Stuck ∧
      Timebase.accrue c.pending elapsed c.frequency = .ok (c.advance elapsed).1.pending := by
  obtain ⟨p, hp, hadvance⟩ := advance_of_counted h
  cases hwhole : Timebase.whole p with
  | error e' =>
    rw [hwhole] at hadvance
    rw [hadvance]
    exact ⟨⟨e', hwhole⟩, hp⟩
  | ok ticks =>
    rw [hadvance, hwhole] at hfail
    cases hfail

/-- If such a clock is as it was, it was stuck already. -/
theorem stuck_of_unchanged (h : ¬ c.Refuses elapsed) {e : Error}
    (hfail : (c.advance elapsed).2 = .error e) (hsame : (c.advance elapsed).1 = c) : c.Stuck := by
  have hstuck := (stuck_of_counted h hfail).1
  rwa [hsame] at hstuck

/-- A clock after several times have elapsed, whether it failed on them or not. -/
def advanceAll (c : Clock τ) (times : List τ) : Clock τ :=
  times.foldl (fun c elapsed => (c.advance elapsed).1) c

/-- A reset forgets whatever has become of the clock. -/
theorem reset_advanceAll (c : Clock τ) (times : List τ) :
    (c.advanceAll times).reset = c.reset := by
  induction times generalizing c with
  | nil => rfl
  | cons elapsed times ih =>
    have hrate : (c.advance elapsed).1.frequency = c.frequency := by rw [c.advance_fst elapsed]
    calc (c.advanceAll (elapsed :: times)).reset = (c.advance elapsed).1.reset := ih _
      _ = c.reset := by rw [reset, hrate, reset]

end

variable {c : Clock Number}

/-- To what is pending a double is added. -/
theorem eq_add_of_accrue {p q : Float} {elapsed frequency : Number}
    (h : Timebase.accrue p elapsed frequency = .ok q) : ∃ due : Float, q = p + due := by
  change ((elapsed.mul frequency) >>= fun product => product.toFloat >>= fun due =>
    Except.ok (p + due)) = .ok q at h
  cases hproduct : elapsed.mul frequency with
  | error e => rw [hproduct] at h; cases h
  | ok product =>
    rw [hproduct] at h
    change (product.toFloat >>= fun due => Except.ok (p + due)) = .ok q at h
    cases hdue : product.toFloat with
    | error e => rw [hdue] at h; cases h
    | ok due =>
      rw [hdue] at h
      exact ⟨due, (Except.ok.inj h).symm⟩

/-- **A stuck clock stays stuck** and fails on any time. -/
theorem Stuck.advance (hc : c.Stuck) (elapsed : Number) :
    (∃ e, (c.advance elapsed).2 = .error e) ∧ (c.advance elapsed).1.Stuck := by
  by_cases h : c.Refuses elapsed
  · obtain ⟨e, he⟩ := advance_of_refuses h
    rw [he]
    exact ⟨⟨e, rfl⟩, hc⟩
  · obtain ⟨p, hp, hadvance⟩ := advance_of_counted h
    have hwhole : ∃ e, Timebase.whole p = .error e := by
      obtain ⟨due, hsum⟩ := eq_add_of_accrue hp
      rw [hsum]
      exact Binary64.truncate_add hc due
    obtain ⟨e, he⟩ := hwhole
    rw [he] at hadvance
    rw [hadvance]
    exact ⟨⟨e, rfl⟩, e, he⟩

theorem Stuck.advanceAll (hc : c.Stuck) (times : List Number) : (c.advanceAll times).Stuck := by
  induction times generalizing c with
  | nil => exact hc
  | cons elapsed times ih => exact ih (hc.advance elapsed).2

end Clock

/-! ## Hosts -/

namespace Host

variable {h : Host} {elapsed : Number} {e : Error}

/-- If the instruction clock fails, it is all that has changed. -/
theorem advance_of_first (hfail : (h.instructionClock.advance elapsed).2 = .error e) :
    h.advance elapsed =
      ({ h with instructionClock := (h.instructionClock.advance elapsed).1 }, .error e) := by
  unfold advance
  simp only [hfail]

/-- If the timer clock fails, the time has elapsed on the instruction clock, and the
    instructions that were due are lost. -/
theorem advance_of_second {count : ℤ} (hok : (h.instructionClock.advance elapsed).2 = .ok count)
    (hfail : (h.timerClock.advance elapsed).2 = .error e) :
    h.advance elapsed =
      ({ h with
        instructionClock := (h.instructionClock.advance elapsed).1
        timerClock := (h.timerClock.advance elapsed).1 }, .error e) := by
  unfold advance
  simp only [hok, hfail]

/-- **Time that cannot be turned into ticks.**  A clock that fails on some time is as it was
    if the time was refused before it was counted: if it is negative, or its ticks are too
    many for a double.  Otherwise the time has been counted, so that the clock is not as it was
    unless it was stuck already, and fails on all times that follow, until it is reset.  A host
    on which a clock fails has changed in its clocks only: in the instruction clock alone if
    this failed, and in both if only the timer clock did.  It is as it was just where they are:
    if the instruction clock refused the time, or if the timer clock did and no part of an
    instruction has come or gone. -/
theorem failed_advance (c : Clock Number) (h : Host) (elapsed : Number) (e : Error) :
    ((c.advance elapsed).2 = .error e →
      (c.Refuses elapsed → (c.advance elapsed).1 = c) ∧
      (¬ c.Refuses elapsed →
        ((c.advance elapsed).1 = c → c.Stuck) ∧
        ∀ times,
          (∀ next, ∃ e', (((c.advance elapsed).1.advanceAll times).advance next).2 = .error e') ∧
            ((c.advance elapsed).1.advanceAll times).reset = c.reset)) ∧
    ((h.instructionClock.advance elapsed).2 = .error e →
      h.advance elapsed =
        ({ h with instructionClock := (h.instructionClock.advance elapsed).1 }, .error e) ∧
      (h.instructionClock.Refuses elapsed → (h.advance elapsed).1 = h) ∧
      (¬ h.instructionClock.Refuses elapsed →
        (h.advance elapsed).1 = h → h.instructionClock.Stuck)) ∧
    ∀ count, (h.instructionClock.advance elapsed).2 = .ok count →
      (h.timerClock.advance elapsed).2 = .error e →
      h.advance elapsed =
        ({ h with
          instructionClock := (h.instructionClock.advance elapsed).1
          timerClock := (h.timerClock.advance elapsed).1 }, .error e) ∧
      (h.timerClock.Refuses elapsed →
        ((h.advance elapsed).1 = h ↔
          (h.instructionClock.advance elapsed).1 = h.instructionClock)) ∧
      (¬ h.timerClock.Refuses elapsed → (h.advance elapsed).1 = h → h.timerClock.Stuck) := by
  refine ⟨fun hfail => ⟨Clock.advance_fst_of_refuses, fun hcounted => ⟨?_, fun times => ⟨?_, ?_⟩⟩⟩,
    fun hfail => ⟨advance_of_first hfail, fun hrefuses => ?_, fun hcounted hsame => ?_⟩,
    fun count hok hfail => ⟨advance_of_second hok hfail, fun hrefuses => ?_,
      fun hcounted hsame => ?_⟩⟩
  · exact Clock.stuck_of_unchanged hcounted hfail
  · have hstuck := (Clock.stuck_of_counted hcounted hfail).1
    exact fun next => ((hstuck.advanceAll times).advance next).1
  · exact c.reset_advanceAll (elapsed :: times)
  · rw [advance_of_first hfail, Clock.advance_fst_of_refuses hrefuses]
  · rw [advance_of_first hfail] at hsame
    exact Clock.stuck_of_unchanged hcounted hfail (congrArg instructionClock hsame)
  · rw [advance_of_second hok hfail, Clock.advance_fst_of_refuses hrefuses]
    refine ⟨fun hsame => congrArg instructionClock hsame, fun hsame => ?_⟩
    dsimp only
    rw [hsame]
  · rw [advance_of_second hok hfail] at hsame
    exact Clock.stuck_of_unchanged hcounted hfail (congrArg timerClock hsame)

/-- A clock of sixty ticks a second: a second less than none leaves it as it was, and an infinity
    of seconds makes it fail on any time after any others.  A host of one instruction and
    `10 ^ 308` timer ticks a second: a second less than none leaves it as it was, and two and a
    half seconds do not. -/
theorem failed_advance_sixty :
    ∃ config logger start, HostConfig.ofSettings
        { instructionFrequency := .int 1, timerFrequency := .int (10 ^ 154 * 10 ^ 154) } =
          .ok config ∧
      Logger.ofSettings {} .null = .ok logger ∧
      create config [0x12, 0x00] logger .null = .ok start ∧
      let c : Clock Number := .start (.int 60)
      let infinity : Number := .real (.ofBits 0x7FF0000000000000)
      (c.advance (.int (-1))).1 = c ∧
      (∀ times next,
        ∃ e, (((c.advance infinity).1.advanceAll times).advance next).2 = .error e) ∧
      (start.advance (.int (-1))).1 = start ∧
      (start.advance (.real (.ofBits 0x4004000000000000))).1 ≠ start := by
  obtain ⟨config, logger, start, hconfig, hlogger, hstart, hfirst, hsecond⟩ :
      ∃ config logger start, HostConfig.ofSettings
          { instructionFrequency := .int 1, timerFrequency := .int (10 ^ 154 * 10 ^ 154) } =
            .ok config ∧
        Logger.ofSettings {} .null = .ok logger ∧
        create config [0x12, 0x00] logger .null = .ok start ∧
        start.instructionClock = .start (.int 1) ∧
        start.timerClock = .start (.int (10 ^ 154 * 10 ^ 154)) :=
    ⟨_, _, _, rfl, rfl, rfl, rfl, rfl⟩
  refine ⟨config, logger, start, hconfig, hlogger, hstart, ?_⟩
  intro c infinity
  obtain ⟨e, hinfinite⟩ : ∃ e, (c.advance infinity).2 = .error e := by decide +kernel
  obtain ⟨count, hok⟩ : ∃ count,
      (start.instructionClock.advance (.real (.ofBits 0x4004000000000000))).2 = .ok count := by
    rw [hfirst]
    decide +kernel
  obtain ⟨e', hfail⟩ : ∃ e,
      (start.timerClock.advance (.real (.ofBits 0x4004000000000000))).2 = .error e := by
    rw [hsecond]
    decide +kernel
  refine ⟨((failed_advance c start _ _).1 rfl).1 (.inl rfl),
    fun times => ((((failed_advance c start _ e).1 hinfinite).2 (by decide +kernel)).2 times).1,
    ((failed_advance c start _ _).2.1 rfl).2.1 (.inl rfl), fun hsame => ?_⟩
  have hstuck : start.timerClock.Stuck :=
    ((failed_advance c start _ e').2.2 count hok hfail).2.2
      (by rw [hsecond]; decide +kernel) hsame
  rw [hsecond] at hstuck
  revert hstuck
  decide +kernel

/-- **Time on which a clock fails may have been counted.**  A clock of sixty ticks a second fails
    on an infinity of seconds, and then on one second as well.  On a host of one instruction
    and `10 ^ 308` timer ticks a second only the timer clock fails on two and a half seconds:
    half an instruction is pending then, and two are lost. -/
theorem failed_advance_lasts :
    (let c : Clock Number := .start (.int 60)
      let infinity : Number := .real (.ofBits 0x7FF0000000000000)
      (c.advance (.int 1)).2.toOption = some 60 ∧ (c.advance infinity).2.toOption = none ∧
        ((c.advance infinity).1.advance (.int 1)).2.toOption = none) ∧
    ∃ config logger start, HostConfig.ofSettings
        { instructionFrequency := .int 1, timerFrequency := .int (10 ^ 154 * 10 ^ 154) } =
          .ok config ∧
      Logger.ofSettings {} .null = .ok logger ∧
      create config [0x12, 0x00] logger .null = .ok start ∧
      let elapsed : Number := .real (.ofBits 0x4004000000000000)
      (start.advance elapsed).2.toOption = none ∧
        Float.toBits start.instructionClock.pending = 0 ∧
        Float.toBits (start.advance elapsed).1.instructionClock.pending = 0x3FE0000000000000 := by
  refine ⟨by decide +kernel, _, _, _, rfl, rfl, rfl, by decide +kernel, by decide +kernel,
    by decide +kernel⟩

end Host

end Chip8
