/-
  Sound — the tone.

  One second of a sine wave in 16-bit samples.  One cycle, cut to whole samples,
  is repeated to fill the second.
-/
import Chip8.Grid

namespace Chip8

/-- A sound in 16-bit samples. -/
structure Wave where
  length : Nat
  /-- the sample at each place -/
  sample : Nat → Int16

namespace Wave

/-- Up to `n` samples from place `start` on. -/
def samples (w : Wave) (start n : Nat) : List Int16 :=
  (List.range (min n (w.length - start))).map fun i => w.sample (start + i)

/-- The samples up to the place that a value tells, counted from the end if it is below
    zero; all of them if it tells none. -/
def upTo (w : Wave) (place : Value) : Except Error (List Int16) :=
  match place, place.integer? with
  | .null, _ => .ok (w.samples 0 w.length)
  | _, some n => .ok (w.samples 0 (if n < 0 then w.length + n else n).toNat)
  | _, none => .error (.kind .bound)

end Wave

namespace Tone

/-- The frequency of the tone. -/
def defaultFrequency : Value := .int 550

/-- Samples per second. -/
def defaultRate : Value := .int 44100

/-- The greatest sample. -/
def amplitude : Float := 4096

/-- The double nearest to a full turn. -/
def fullTurn : Float := .ofBits 0x401921FB54442D18

/-- The sample at place `i` of a wave with `omega` radians per sample. -/
def sample (omega : Float) (i : Nat) : Int16 :=
  (amplitude * Float.sin (.ofNat i * omega)).toInt16

/-- One second of a wave with `cycle` samples to a cycle, all zeros if there are
    none. -/
def second (omega : Float) (cycle rate : Nat) : Wave where
  length := rate
  sample i := if cycle = 0 then 0 else sample omega (i % cycle)

/-- The samples of a cycle of some length, none if it is not positive.  They are
    counted in 64 bits, where the number just beyond counts as below zero. -/
def cycleSamples [Storage.Room] (length : Int) : Except Error Nat := do
  if 0x8000000000000000 < length || length < -0x8000000000000000 then throw (.array .countOverflow)
  if length = 0x8000000000000000 then return 0
  Storage.reserve [max 0 length] .int64
  return length.toNat

/-- Make room for one second in which a cycle is repeated. -/
def reserve [Storage.Room] (cycle rate : Nat) : Except Error Unit :=
  if cycle = 0 then Storage.reserve [rate] .float64
  else
    let repetitions := (rate + cycle - 1) / cycle
    if 0x8000000000000000 ≤ repetitions then .error .repetitionOverflow
    else if Storage.Room.bytes < 8 * repetitions then .error .noRoomToRepeat
    else Storage.reserve [repetitions * cycle] .float64

/-- One second of a tone.  The rate must be a whole number, not below zero. -/
def wave [Storage.Room] (frequency rate : Number) : Except Error Wave := do
  let length ← rate.div frequency
  if length == 0 then throw .realDivisionByZero
  let cycle ← cycleSamples (← Number.truncate length)
  if rate.isNegative then throw (.array .negativeLength)
  match rate with
  | .int rate =>
    reserve cycle rate.toNat
    return second (fullTurn / length) cycle rate.toNat
  | .real _ =>
    throw (.kind (if cycle = 0 then .length .real else .repetition .real))

/-- One second of a tone, with up to two values for its frequency and its rate. -/
def waveOf [Storage.Room] (arguments : List Value) : Except Error Wave := do
  if 2 < arguments.length then
    throw (.call (.surplus "make_tone()" 0 2 arguments.length))
  let frequency := arguments.getD 0 defaultFrequency
  let rate := arguments.getD 1 defaultRate
  match frequency.number?, rate.number? with
  | some f, some r => wave f r
  | _, _ => throw (.noOperation "/" rate frequency)

end Tone

end Chip8
