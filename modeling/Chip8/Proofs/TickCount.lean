/-
  Hosts — no tick is lost and none invented.

  What a clock has pending is what its ticks so far leave of the time that has elapsed: each
  call takes the whole ticks off, and a sum of whole ticks and parts below one has the floor
  of the exact sum, however the time is cut up.  A clock that counts in doubles is one that
  counts in rational numbers as long as it does not round (`Clock.Unrounded`).

  * `Clock.advance_rat`: what a call does, in rational numbers;
  * `Clock.calls_rat`: what several calls do, whatever was pending;
  * `Number.truncate_of_nonneg`, `Number.isNegative_of_nonneg`: the two tests of a clock by the
    values of doubles;
  * `Clock.StandsFor.advance`: in doubles the same is done without rounding;
  * `Clock.keeps_time`: all of it, for a clock that has just been made or reset.
-/
import Chip8.Proofs.ClockFailure

namespace Chip8

/-! ## The values of doubles -/

namespace Binary64

open Float.Model (UnpackedFloat)
open Float.Model.UnpackedFloat
open Float.Model.Format (binary64)

/-- The value of a finite double. -/
def value? : Binary64 → Option ℚ
  | finite negative units => some (signedUnits negative units / one)
  | _ => none

theorem toNat_unpackMantissa (b : BitVec binary64.numBits) :
    (unpackMantissa b).toNat = b.toNat % 2 ^ 52 := by
  simp [unpackMantissa]

theorem toNat_unpackSign (b : BitVec binary64.numBits) :
    (unpackSign b).toNat = b.toNat / 2 ^ 63 := by
  have hb : b.toNat < 2 ^ 64 := b.isLt
  simp [unpackSign, Nat.shiftRight_eq_div_pow]
  omega

theorem le_of_ofBitVec_unpackSign {b : BitVec binary64.numBits}
    (h : Sign.ofBitVec (unpackSign b) = .negative) : 2 ^ 63 ≤ b.toNat := by
  unfold Sign.ofBitVec at h
  split_ifs at h with hsign
  rw [← BitVec.toNat_inj, toNat_unpackSign] at hsign
  exact Nat.le_of_not_lt fun hlt => hsign (Nat.div_eq_of_lt hlt)

theorem negative_of_lt_zero {s : Sign} {m : ℕ} {e : ℤ} {hm : 0 < m}
    (h : (UnpackedFloat.finite s m e hm).lt (.zero .positive) = true) : s = .negative := by
  cases s with
  | negative => rfl
  | positive => cases h

/-- What is finite and below zero has its sign bit set and another one. -/
theorem bits_of_lt_zero {b : BitVec binary64.numBits}
    (h : (unpack binary64 b).lt (.zero .positive) = true)
    (hfinite : b.toNat / 2 ^ 52 % 2 ^ 11 ≠ 2047) :
    2 ^ 63 ≤ b.toNat ∧ (b.toNat / 2 ^ 52 % 2 ^ 11 = 0 → b.toNat % 2 ^ 52 ≠ 0) := by
  have hexponent : unpackExponent b ≠ -1#11 := by
    rw [Ne, ← BitVec.toNat_inj, toNat_unpackExponent]
    exact hfinite
  unfold unpack at h
  dsimp only at h
  rw [if_neg hexponent] at h
  split_ifs at h with hzero hmantissa
  · cases h
  · rw [← BitVec.toNat_inj, toNat_unpackMantissa] at hmantissa
    exact ⟨le_of_ofBitVec_unpackSign (negative_of_lt_zero h), fun _ => hmantissa⟩
  · rw [← BitVec.toNat_inj, toNat_unpackExponent] at hzero
    exact ⟨le_of_ofBitVec_unpackSign (negative_of_lt_zero h), fun h0 => absurd h0 hzero⟩

theorem unpack_zero : (0 : Float).toModel.unpack = .zero .positive := by
  have hbits : (0 : Float).toModel.toBits = 0 := by decide +kernel
  unfold Float.Model.unpack
  rw [hbits]
  rfl

/-- A finite double below zero is negative, and not the negative zero. -/
theorem pos_of_lt_zero {x : Float} (h : x < 0) {negative : Bool} {units : ℕ}
    (hx : ofFloat x = .finite negative units) : negative = true ∧ 0 < units := by
  have hlt : (unpack binary64 x.toModel.toBits.toBitVec).lt (.zero .positive) = true := by
    rw [← unpack_zero]
    exact of_decide_eq_true h
  have hbits : x.toModel.toBits.toBitVec.toNat = x.toBits.toNat := rfl
  have hneg := bits_of_lt_zero hlt
  rw [hbits] at hneg
  unfold ofFloat at hx
  dsimp only at hx
  split_ifs at hx with hfinite hfraction hzero
  · obtain ⟨rfl, rfl⟩ := Binary64.finite.inj hx
    exact ⟨decide_eq_true (hneg hfinite).1, Nat.pos_of_ne_zero ((hneg hfinite).2 hzero)⟩
  · obtain ⟨rfl, rfl⟩ := Binary64.finite.inj hx
    exact ⟨decide_eq_true (hneg hfinite).1,
      Nat.mul_pos (Nat.add_pos_left (Nat.pow_pos two_pos) _) (Nat.pow_pos two_pos)⟩

theorem one_pos : 0 < one := by decide +kernel

/-- A value that is not below zero has no sign, unless it is zero. -/
theorem units_of_nonneg {negative : Bool} {units : ℕ} {q : ℚ}
    (h : value? (.finite negative units) = some q) (hq : 0 ≤ q) :
    (negative = true → units = 0) ∧ q = units / one := by
  obtain rfl := Option.some.inj h
  cases negative with
  | false => exact ⟨nofun, rfl⟩
  | true =>
    have hunits : units = 0 := by
      have hle : (0 : ℚ) ≤ signedUnits true units := by
        rwa [le_div_iff₀ (Nat.cast_pos.2 one_pos), zero_mul] at hq
      have hneg : 0 ≤ -(units : ℤ) := Int.cast_nonneg_iff.1 hle
      omega
    subst hunits
    have hzero : signedUnits true 0 = 0 := rfl
    exact ⟨fun _ => rfl, by rw [hzero, Int.cast_zero, Nat.cast_zero]⟩

end Binary64

namespace Number

/-- The value of a number, if it is finite. -/
def value? : Number → Option ℚ
  | int n => some n
  | real x => (Binary64.ofFloat x).value?

theorem value?_zero : (real 0).value? = some 0 := by decide +kernel

variable {a : Number} {x : Float} {q : ℚ}

/-- A number is not taken to be negative if its value is not. -/
theorem isNegative_of_nonneg (h : a.value? = some q) (hq : 0 ≤ q) : a.isNegative = false := by
  cases a with
  | int n =>
    obtain rfl := Option.some.inj h
    exact decide_eq_false (not_lt.2 (Int.cast_nonneg_iff.1 hq))
  | real x =>
    change (Binary64.ofFloat x).value? = some q at h
    refine decide_eq_false fun hlt => ?_
    cases hx : Binary64.ofFloat x with
    | nan => rw [hx] at h; cases h
    | infinite negative => rw [hx] at h; cases h
    | finite negative units =>
      rw [hx] at h
      obtain ⟨hnegative, hunits⟩ := Binary64.pos_of_lt_zero hlt hx
      have := (Binary64.units_of_nonneg h hq).1 hnegative
      omega

/-- The integer part of a double whose value is not negative is the floor of the value. -/
theorem truncate_of_nonneg (h : (real x).value? = some q) (hq : 0 ≤ q) :
    truncate x = .ok ⌊q⌋ := by
  change (Binary64.ofFloat x).value? = some q at h
  unfold truncate
  cases hx : Binary64.ofFloat x with
  | nan => rw [hx] at h; cases h
  | infinite negative => rw [hx] at h; cases h
  | finite negative units =>
    rw [hx] at h
    obtain ⟨hunits, rfl⟩ := Binary64.units_of_nonneg h hq
    have hfloor : ⌊(units : ℚ) / Binary64.one⌋ = ↑(units / Binary64.one) :=
      Rat.floor_natCast_div_natCast units Binary64.one
    show Except.ok (Binary64.truncate negative units) = _
    rw [hfloor, Binary64.truncate]
    cases negative with
    | false => rfl
    | true =>
      rw [hunits rfl, Nat.zero_div]
      rfl

end Number

/-! ## Several calls -/

namespace Clock

section
variable {τ : Type} [Timebase τ]

/-- A clock of rate `f` that has just been made or reset. -/
inductive Started (f : τ) : Clock τ → Prop
  | made {c : Clock τ} : ofFrequency f = .ok c → Started f c
  | reset (c : Clock τ) : c.frequency = f → Started f c.reset

theorem Started.eq_start {f : τ} {c : Clock τ} (h : Started f c) : c = start f := by
  cases h with
  | made h =>
    unfold ofFrequency at h
    split_ifs at h
    exact (Except.ok.inj h).symm
  | reset c h => rw [Clock.reset, h]

/-- What a clock answers to several times. -/
def answers (c : Clock τ) : List τ → List (Except Error ℤ)
  | [] => []
  | e :: times => (c.advance e).2 :: answers (c.advance e).1 times

/-- The ticks that several times make. -/
def total (c : Clock τ) (times : List τ) : ℤ :=
  ((c.answers times).map fun a => a.toOption.getD 0).sum

theorem total_cons (c : Clock τ) (e : τ) (times : List τ) :
    c.total (e :: times) = (c.advance e).2.toOption.getD 0 + (c.advance e).1.total times :=
  List.sum_cons

theorem advanceAll_cons (c : Clock τ) (e : τ) (times : List τ) :
    c.advanceAll (e :: times) = (c.advance e).1.advanceAll times := rfl

end

/-! ## In rational numbers -/

/-- The clock of rate `f` that counts in rational numbers and has `p` pending. -/
def rational (f p : ℚ) : Clock ℚ := ⟨f, p⟩

/-- What a clock that counts in rational numbers has pending. -/
def part (c : Clock ℚ) : ℚ := c.pending

variable {f p e : ℚ} {times : List ℚ}

/-- **What a call does**: it takes the whole ticks off what is pending. -/
theorem advance_rat (hf : 0 < f) (hp : 0 ≤ p) (he : 0 ≤ e) :
    (rational f p).advance e = (rational f (Int.fract (p + f * e)), .ok ⌊p + f * e⌋) := by
  have hsum : 0 ≤ p + e * f := by positivity
  have hneg : ¬ decide (e < 0) = true := fun h => not_lt.2 he (of_decide_eq_true h)
  rw [mul_comm f e]
  show (if decide (e < 0) then _ else
    (rational f (p + e * f - (if 0 ≤ p + e * f then ⌊p + e * f⌋ else _ : ℤ)),
      Except.ok (if 0 ≤ p + e * f then ⌊p + e * f⌋ else _))) = _
  rw [if_neg hneg, if_pos hsum]
  rfl

/-- The ticks so far and what is pending make up the time that has elapsed. -/
theorem floor_fract_add (a b : ℚ) :
    ⌊a⌋ + ⌊Int.fract a + b⌋ = ⌊a + b⌋ ∧ Int.fract (Int.fract a + b) = Int.fract (a + b) := by
  have hsum : a + b = ⌊a⌋ + (Int.fract a + b) := by
    rw [← add_assoc, Int.floor_add_fract]
  rw [hsum]
  exact ⟨(Int.floor_intCast_add _ _).symm, (Int.fract_intCast_add _ _).symm⟩

/-- **What several calls do**, whatever part of a tick was pending. -/
theorem calls_rat (hf : 0 < f) (hp : p ∈ Set.Ico (0 : ℚ) 1) (htimes : ∀ e ∈ times, 0 ≤ e) :
    (rational f p).total times = ⌊p + f * times.sum⌋ ∧
      (rational f p).advanceAll times = rational f (Int.fract (p + f * times.sum)) ∧
      ∀ a ∈ (rational f p).answers times, ∃ n : ℤ, a = .ok n ∧ 0 ≤ n := by
  induction times generalizing p with
  | nil =>
    have hzero : p + f * List.sum [] = p := by rw [List.sum_nil, mul_zero, add_zero]
    rw [hzero, Int.fract_eq_self.2 hp, Int.floor_eq_zero_iff.2 hp]
    exact ⟨rfl, rfl, nofun⟩
  | cons e times ih =>
    have he := htimes e List.mem_cons_self
    obtain ⟨htotal, hafter, hanswers⟩ := ih ⟨Int.fract_nonneg _, Int.fract_lt_one _⟩
      fun e' he' => htimes e' (List.mem_cons_of_mem _ he')
    have hadvance := advance_rat hf hp.1 he
    have hsum := floor_fract_add (p + f * e) (f * times.sum)
    have hdistrib : p + f * (e :: times).sum = p + f * e + f * times.sum := by
      rw [List.sum_cons, mul_add, add_assoc]
    rw [total_cons, advanceAll_cons, answers, hadvance, hdistrib]
    refine ⟨?_, ?_, ?_⟩
    · rw [htotal]
      exact hsum.1
    · rw [hafter, hsum.2]
    · intro a ha
      rcases List.mem_cons.1 ha with rfl | ha
      · exact ⟨_, rfl, Int.floor_nonneg.2 (by have := hp.1; positivity)⟩
      · exact hanswers a ha

/-! ## In doubles -/

/-- What is pending in exact arithmetic once some time has been added to it. -/
def due? (c : Clock Number) (e : Number) : Option ℚ := do
  return (← (Number.real c.pending).value?) + (← c.frequency.value?) * (← e.value?)

/-- A time is counted without rounding: what is pending is exact, with its whole ticks and
    without them. -/
def Unrounded (c : Clock Number) (e : Number) : Prop :=
  (∃ q, Timebase.accrue c.pending e c.frequency = .ok q) ∧
    ∀ q ∈ (Timebase.accrue c.pending e c.frequency).toOption,
      (Number.real q).value? = c.due? e ∧
        ∀ n ∈ (Number.truncate q).toOption,
          (Number.real (@Timebase.minus Number _ q n)).value? =
            (c.due? e).map fun a => a - (n : ℚ)

instance (c : Clock Number) (e : Number) : Decidable (c.Unrounded e) :=
  inferInstanceAs (Decidable (_ ∧ _))

/-- Several times are counted without rounding. -/
def UnroundedAll (c : Clock Number) : List Number → Prop
  | [] => True
  | e :: times => c.Unrounded e ∧ UnroundedAll (c.advance e).1 times

instance decidableUnroundedAll (c : Clock Number) :
    (times : List Number) → Decidable (c.UnroundedAll times)
  | [] => .isTrue trivial
  | e :: times =>
    have := decidableUnroundedAll (c.advance e).1 times
    inferInstanceAs (Decidable (_ ∧ _))

/-- A clock that counts in doubles has the values of one that counts in rational numbers. -/
structure StandsFor (r : Clock Number) (c : Clock ℚ) : Prop where
  frequency : r.frequency.value? = some c.frequency
  pending : (Number.real r.pending).value? = some c.part

variable {r : Clock Number} {reading : Number} {readings : List Number}

/-- **Without rounding the same is done in doubles.** -/
theorem StandsFor.advance (h : r.StandsFor (rational f p)) (hf : 0 < f) (hp : 0 ≤ p)
    (hreading : reading.value? = some e) (he : 0 ≤ e) (hexact : r.Unrounded reading) :
    (r.advance reading).2 = ((rational f p).advance e).2 ∧
      (r.advance reading).1.StandsFor ((rational f p).advance e).1 := by
  have hdue : r.due? reading = some (p + f * e) := by
    rw [due?, h.pending, h.frequency, hreading]
    rfl
  obtain ⟨⟨q, hq⟩, hexact⟩ := hexact
  obtain ⟨hvalue, hrest⟩ := hexact q (by rw [hq]; rfl)
  rw [hdue] at hvalue
  have hsum : 0 ≤ p + f * e := by positivity
  have hwhole : @Timebase.whole Number _ q = .ok ⌊p + f * e⌋ :=
    Number.truncate_of_nonneg hvalue hsum
  have hcounted : ¬ r.Refuses reading := by
    rintro (hneg | ⟨err, herr⟩)
    · exact Bool.noConfusion ((Number.isNegative_of_nonneg hreading he).symm.trans hneg)
    · cases hq.symm.trans herr
  obtain ⟨q', hq', hadvance⟩ := advance_of_counted hcounted
  obtain rfl := Except.ok.inj (hq.symm.trans hq')
  rw [hwhole] at hadvance
  rw [hadvance, advance_rat hf hp he]
  refine ⟨rfl, h.frequency, ?_⟩
  have hpending := hrest ⌊p + f * e⌋ (by rw [show Number.truncate q = _ from hwhole]; rfl)
  rw [hdue] at hpending
  exact hpending

/-- **So it is over several calls** of which none rounds. -/
theorem StandsFor.advanceAll (h : r.StandsFor (rational f p)) (hf : 0 < f)
    (hp : p ∈ Set.Ico (0 : ℚ) 1)
    (hreadings : List.Forall₂ (fun reading e => reading.value? = some e) readings times)
    (htimes : ∀ e ∈ times, 0 ≤ e) (hexact : r.UnroundedAll readings) :
    r.answers readings = (rational f p).answers times ∧
      (r.advanceAll readings).StandsFor ((rational f p).advanceAll times) := by
  induction hreadings generalizing r p with
  | nil => exact ⟨rfl, h⟩
  | @cons reading e readings times hreading _ ih =>
    have he := htimes e List.mem_cons_self
    obtain ⟨hanswer, hstands⟩ := h.advance hf hp.1 hreading he hexact.1
    rw [advance_rat hf hp.1 he] at hstands
    obtain ⟨hanswers, hafter⟩ := ih hstands ⟨Int.fract_nonneg _, Int.fract_lt_one _⟩
      (fun e' he' => htimes e' (List.mem_cons_of_mem _ he')) hexact.2
    rw [answers, answers, advanceAll_cons, advanceAll_cons, hanswer, advance_rat hf hp.1 he]
    exact ⟨congrArg _ hanswers, hafter⟩

/-! ## Clocks that have just been made or reset -/

/-- What a clock of rate `f`, made or reset, has done after several times. -/
structure Keeps (c : Clock ℚ) (f : ℚ) (times : List ℚ) : Prop where
  /-- each call has answered a number of ticks that is not negative -/
  answers : ∀ a ∈ c.answers times, ∃ n : ℤ, a = .ok n ∧ 0 ≤ n
  total : c.total times = ⌊f * times.sum⌋
  /-- what is pending is what is left of the time -/
  part : (c.advanceAll times).part = f * times.sum - c.total times
  part_mem : (c.advanceAll times).part ∈ Set.Ico (0 : ℚ) 1

theorem keeps_start (hf : 0 < f) (htimes : ∀ e ∈ times, 0 ≤ e) :
    (start f : Clock ℚ).Keeps f times := by
  obtain ⟨htotal, hafter, hanswers⟩ := calls_rat hf ⟨le_refl 0, zero_lt_one⟩ htimes
  rw [zero_add] at htotal hafter
  have hpart : ((start f : Clock ℚ).advanceAll times).part = Int.fract (f * times.sum) :=
    congrArg part hafter
  refine ⟨hanswers, htotal, ?_, ?_⟩
  · rw [hpart, show (start f : Clock ℚ).total times = _ from htotal]
    rfl
  · rw [hpart]
    exact ⟨Int.fract_nonneg _, Int.fract_lt_one _⟩

/-- **No tick is lost and none invented.**  After any number of calls with times that are not
    negative, a clock of rate `f` that has been made or reset has answered each of them, with
    `⌊f * t⌋` ticks in all for the time `t` that has elapsed, and less than one tick is left
    pending of it.  How the time was cut into calls does not matter, and in no more time there
    are no more ticks.  This is so in rational numbers; a clock that counts in doubles gives the
    same answers and has the same pending, over all calls of which none rounds. -/
theorem keeps_time (hf : 0 < f) {c : Clock ℚ} (hc : Started f c) (htimes : ∀ e ∈ times, 0 ≤ e) :
    c.Keeps f times ∧
      (∀ times' : List ℚ, (∀ e ∈ times', 0 ≤ e) →
        (times'.sum = times.sum → c.total times' = c.total times) ∧
        (times'.sum ≤ times.sum → c.total times' ≤ c.total times)) ∧
      ∀ (g : Number) (r : Clock Number) (readings : List Number),
        g.value? = some f → Started g r →
        List.Forall₂ (fun reading e => reading.value? = some e) readings times →
        r.UnroundedAll readings →
          r.answers readings = c.answers times ∧
            (Number.real (r.advanceAll readings).pending).value? =
              some (c.advanceAll times).part := by
  obtain rfl := hc.eq_start
  have hkeeps := keeps_start hf htimes
  refine ⟨hkeeps, ?_, ?_⟩
  · intro times' htimes'
    have hkeeps' := keeps_start hf htimes'
    rw [hkeeps.total, hkeeps'.total]
    refine ⟨fun hsum => by rw [hsum], fun hsum => ?_⟩
    exact Int.floor_le_floor (mul_le_mul_of_nonneg_left hsum hf.le)
  · rintro g r readings hg hr hreadings hexact
    obtain rfl := hr.eq_start
    have hstands : (start g : Clock Number).StandsFor (rational f 0) := ⟨hg, Number.value?_zero⟩
    obtain ⟨hanswers, hafter⟩ :=
      hstands.advanceAll hf ⟨le_refl 0, zero_lt_one⟩ hreadings htimes hexact
    exact ⟨hanswers, hafter.pending⟩

/-- Half a second and two eighths on a clock of sixty ticks a second: half a tick is carried from
    the second call to the third, and three quarters in one call make as many ticks. -/
theorem keeps_time_sixty :
    ∃ (c : Clock ℚ) (r : Clock Number), ofFrequency 60 = .ok c ∧ ofFrequency (.int 60) = .ok r ∧
      let half : Number := .real (.ofBits 0x3FE0000000000000)
      let eighth : Number := .real (.ofBits 0x3FC0000000000000)
      half.value? = some (1 / 2) ∧ eighth.value? = some (1 / 8) ∧
      c.total [1 / 2, 1 / 8, 1 / 8] = 45 ∧ c.total [3 / 4] = 45 ∧
      (r.answers [half, eighth, eighth]).map Except.toOption = [some 30, some 7, some 8] := by
  have htimes : ∀ e ∈ ([1 / 2, 1 / 8, 1 / 8] : List ℚ), 0 ≤ e := by decide +kernel
  obtain ⟨hkeeps, hcut, hdoubles⟩ := keeps_time (f := 60) (by norm_num) (.made rfl) htimes
  have htotal : (start 60 : Clock ℚ).total [1 / 2, 1 / 8, 1 / 8] = 45 := by
    rw [hkeeps.total]
    norm_num
  refine ⟨_, _, rfl, rfl, ?_⟩
  intro half eighth
  have hhalf : half.value? = some (1 / 2) := by decide +kernel
  have heighth : eighth.value? = some (1 / 8) := by decide +kernel
  have hexact : (start (.int 60) : Clock Number).UnroundedAll [half, eighth, eighth] := by
    decide +kernel
  refine ⟨hhalf, heighth, htotal, ?_, ?_⟩
  · rw [← htotal]
    exact (hcut [3 / 4] (by decide +kernel)).1 (by norm_num)
  · have hreadings : List.Forall₂ (fun reading e => reading.value? = some e)
        [half, eighth, eighth] [1 / 2, 1 / 8, 1 / 8] :=
      .cons hhalf (.cons heighth (.cons heighth .nil))
    rw [(hdoubles (.int 60) _ _ (by decide +kernel) (.made rfl) hreadings hexact).1]
    decide +kernel

end Clock

end Chip8
