/-
  CHIP-8 machine — the state of the machine.

  One value holds everything an instruction can read or write.  `powerOn` is
  the state in which a machine starts: font loaded, everything else clear, and
  the random source at its key.  The key is also kept aside, so that `reset`
  gives the same random bytes again.  The timers count down to zero, at a rate of
  their own that the host keeps.
-/
import Chip8.CallStack
import Chip8.Display
import Chip8.Random

namespace Chip8

/-! ## The keypad

Sixteen keys, each up or down.  `pressed` lists those down in increasing
order and `lowest?` finds the first of them. -/

/-- For each key, whether it is down. -/
abbrev Keypad := Vector Bool 16

namespace Keypad

/-- The number of keys. -/
def size : Nat := 16

/-- No key down. -/
def released : Keypad := Vector.replicate 16 false

/-- Push a key down. -/
def press (k : Keypad) (key : Nibble) : Keypad := k.set key true key.lt

/-- Let a key go. -/
def release (k : Keypad) (key : Nibble) : Keypad := k.set key false key.lt

/-- The keys that are down, lowest first. -/
def pressed (k : Keypad) : List Nibble := (List.finRange 16).filter k.get

/-- The lowest key that is down. -/
def lowest? (k : Keypad) : Option Nibble := (List.finRange 16).find? k.get

theorem lowest?_eq_head? (k : Keypad) : k.lowest? = k.pressed.head? := by
  simp [lowest?, pressed, List.head?_filter]

theorem mem_pressed {k : Keypad} {key : Nibble} : key ∈ k.pressed ↔ k.get key = true := by
  simp [pressed]

end Keypad

/-! ## The machine -/

/-- The complete state of the machine. -/
structure Machine where
  memory : Memory
  /-- `V0` to `VF` -/
  registers : Registers
  /-- the index register `I` -/
  index : UInt16
  /-- the program counter -/
  pc : UInt16
  stack : CallStack
  delayTimer : UInt8
  soundTimer : UInt8
  keypad : Keypad
  display : Display
  /-- the display was drawn to since the host last acknowledged it -/
  displayDirty : Bool
  /-- the key of the next random byte -/
  rng : Key
  /-- the key the machine was created with -/
  seedKey : Key
deriving DecidableEq

namespace Machine

/-- The state in which a machine starts. -/
def powerOn (key : Key) : Machine where
  memory := Font.memory
  registers := Vector.replicate 16 0
  index := 0
  pc := .ofNat Memory.programStart
  stack := .empty
  delayTimer := 0
  soundTimer := 0
  keypad := .released
  display := .blank
  displayDirty := false
  rng := key
  seedKey := key

/-- Back to the start with the key the machine was created with.  No program
    is loaded then. -/
def reset (m : Machine) : Machine := powerOn m.seedKey

/-- Note that the host has shown the display. -/
def acknowledgeDisplay (m : Machine) : Machine := { m with displayDirty := false }

/-- The word at the program counter. -/
def word (m : Machine) : UInt16 := m.memory.wordAt m.pc

/-- The word at the program counter does not lie within memory. -/
def fetchOutOfBounds (m : Machine) : Bool := Memory.size ≤ m.pc.toNat + 1

/-- Move the program counter past the word it points to. -/
def advancePc (m : Machine) : Machine := { m with pc := m.pc + 2 }

/-- The word at the program counter, and the machine with the program counter
    past it. -/
def fetch (m : Machine) : UInt16 × Machine := (m.word, m.advancePc)

end Machine

/-! ## The timers -/

/-- One tick of a timer: down by one, stopping at zero. -/
def tick (t : UInt8) : UInt8 := if t = 0 then 0 else t - 1

theorem toNat_tick (t : UInt8) : (tick t).toNat = t.toNat - 1 := by
  unfold tick
  split
  · next h => simp [h]
  · next h =>
    have h0 : t.toNat ≠ 0 := fun h' => h (UInt8.toNat_inj.1 h')
    have : (1 : UInt8) ≤ t := UInt8.le_iff_toNat_le.2 (by simp; omega)
    rw [UInt8.toNat_sub_of_le _ _ this]
    rfl

namespace Machine

/-- One tick of both timers. -/
def tickTimers (m : Machine) : Machine :=
  { m with delayTimer := tick m.delayTimer, soundTimer := tick m.soundTimer }

/-- Several ticks of both timers. -/
def tickTimersN (m : Machine) : Nat → Machine
  | 0 => m
  | n + 1 => m.tickTimers.tickTimersN n

/-- Whether the sound timer is running. -/
def beeping (m : Machine) : Bool := m.soundTimer != 0

end Machine

end Chip8
