/-
  Hosts — clocks of a fixed rate.

  A clock turns elapsed time into ticks.  What is left of a tick is carried to
  the next call, so that in exact arithmetic no tick is lost or invented,
  however the time is cut up.  The arithmetic is a parameter, `Timebase`: hosts
  count in doubles, and the rational numbers are the exact case.
-/
import Chip8.Value.Reading

namespace Chip8

/-- The arithmetic in which a clock counts; `τ` is the type of times and rates. -/
class Timebase (τ : Type) where
  /-- the type of a part of a tick -/
  Part : Type
  zero : Part
  /-- how a time or rate is shown -/
  text : τ → String
  isNegative : τ → Bool
  isNonpositive : τ → Bool
  /-- a part of a tick, and the ticks of some time at some rate -/
  accrue : Part → τ → τ → Except Error Part
  /-- the whole ticks in a part -/
  whole : Part → Except Error Int
  /-- the part without these ticks -/
  minus : Part → Int → Part

/-- Times are integers or doubles, and a part of a tick is a double.  Two
    integers are multiplied exactly before they become a double. -/
instance : Timebase Number where
  Part := Float
  zero := 0
  text := Number.text
  isNegative := Number.isNegative
  isNonpositive := Number.isNonpositive
  accrue p elapsed frequency := do
    let due ← (← elapsed.mul frequency).toFloat
    .ok (p + due)
  whole := Number.truncate
  minus p n := p - (Binary64.ofInt? n).getD 0

/-- The exact case. -/
instance : Timebase Rat where
  Part := Rat
  zero := 0
  text q := toString q
  isNegative q := q < 0
  isNonpositive q := q ≤ 0
  accrue p elapsed frequency := .ok (p + elapsed * frequency)
  whole p := .ok (if 0 ≤ p then p.floor else p.ceil)
  minus p n := p - n

/-- A clock of a fixed rate. -/
structure Clock (τ : Type) [Timebase τ] where
  /-- ticks per second -/
  frequency : τ
  /-- the part of a tick that has elapsed since the last one -/
  pending : Timebase.Part τ

namespace Clock

variable {τ : Type} [Timebase τ]

/-- A clock with nothing pending. -/
def start (frequency : τ) : Clock τ := ⟨frequency, Timebase.zero⟩

/-- A clock of a positive rate. -/
def ofFrequency (frequency : τ) : Except Error (Clock τ) :=
  if Timebase.isNonpositive frequency then
    .error (.clockFrequency (Timebase.text frequency))
  else .ok (start frequency)

/-- Forget what is pending. -/
def reset (c : Clock τ) : Clock τ := start c.frequency

/-- Let time elapse: the clock afterwards and the ticks due.  If the time cannot
    be counted the clock is as it was; if what is pending cannot be turned into
    ticks, the time has been added to it. -/
def advance (c : Clock τ) (elapsed : τ) : Clock τ × Except Error Int :=
  if Timebase.isNegative elapsed then
    (c, .error (.negativeElapsed (Timebase.text elapsed)))
  else
    match Timebase.accrue c.pending elapsed c.frequency with
    | .error e => (c, .error e)
    | .ok pending =>
      match Timebase.whole pending with
      | .error e => ({ c with pending }, .error e)
      | .ok ticks => ({ c with pending := Timebase.minus pending ticks }, .ok ticks)

/-! ## Times and rates told by values -/

/-- A clock of the positive rate that a value tells. -/
def ofValue (frequency : Value) : Except Error (Clock Number) := do
  let n ← frequency.compared "<="
  if n.isNonpositive then throw (.clockFrequency frequency.shown) else return start n

/-- Let the time elapse that a value tells. -/
def advanceValue (c : Clock Number) (elapsed : Value) : Clock Number × Except Error Int :=
  match elapsed.compared "<" with
  | .error e => (c, .error e)
  | .ok n => c.advance n

end Clock

end Chip8
