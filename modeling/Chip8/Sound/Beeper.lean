/-
  Sound — the beeper.

  The beeper starts a looping tone when the sound timer becomes active and stops
  it when it runs out.  It acts on changes only; a silent beeper follows along
  without a tone.  What tells it that the timer is active is a parameter, `Signal`:
  flags are the usual case, and values of any kind are taken for what they count as.
-/
import Chip8.Value

namespace Chip8

/-- A call to the tone of a beeper. -/
inductive ToneCall where
  /-- start the tone, to repeat without end -/
  | play
  | stop
deriving DecidableEq

/-- What can tell that the sound timer is active. -/
class Signal (σ : Type) where
  inactive : σ
  /-- whether two signals are the same -/
  same : σ → σ → Bool
  isActive : σ → Bool

instance : Signal Bool where
  inactive := false
  same a b := a == b
  isActive a := a

/-- Values are compared as such, and are active if they count as true. -/
instance : Signal Value where
  inactive := .flag false
  same := Value.same
  isActive := Value.truth

/-- A beeper and the calls it has made. -/
structure Beeper (σ : Type) where
  /-- it has a tone -/
  audible : Bool
  /-- the last signal that was a change -/
  playing : σ
  calls : List ToneCall
deriving DecidableEq

namespace Beeper

variable {σ : Type} [Signal σ]

/-- A beeper that has not been used. -/
def fresh (audible : Bool) : Beeper σ := ⟨audible, Signal.inactive, []⟩

/-- Tell the beeper whether the sound timer is active. -/
def update (b : Beeper σ) (active : σ) : Beeper σ :=
  if Signal.same active b.playing then b
  else
    let call : ToneCall := if Signal.isActive active then .play else .stop
    { b with playing := active, calls := if b.audible then b.calls ++ [call] else b.calls }

end Beeper

end Chip8
