/-
  Hosts — the keys.

  A host supplies the whole keypad as an array of sixteen values, each being a key that
  is down unless it is zero, or tells single keys by their numbers.  A person tells them
  by the characters of a keyboard, on whose left the sixteen keys lie in a square:

      1 2 3 C        1 2 3 4
      4 5 6 D        q w e r
      7 8 9 E   on   a s d f
      A 0 B F        z x c v
-/
import Chip8.Storage.CommonType

namespace Chip8

/-! ## Snapshots and single keys -/

namespace Keypad

/-- An integer in the place of a list must fit into 32 bits. -/
def checkScalar : Value → Except Error Unit
  | .number (.int n) =>
    if IntegerType.int32.holds n then .ok () else .error (.scalarOutOfRange n .int32)
  | _ => .ok ()

/-- The keypad with the given keys down. -/
def ofFlags (f : Nibble → Bool) : Keypad := Vector.ofFn f

/-- The keypad of a snapshot, which must be an array of sixteen values. -/
def ofSnapshot (s : Value) : Except Error Keypad := do
  checkScalar s
  let values := s.nested.cells
  let type ← Numeric.common values
  let extents ← s.nested.outline.settle
  let flags := (← values.mapM type.isSet).toArray
  if extents = [16] then .ok (ofFlags fun key => flags.getD key false)
  else .error (.array (.keypadShape extents))

/-- The key with a given number. -/
def key (n : Int) : Except Error Nibble :=
  if h : 0 ≤ n ∧ n < 16 then .ok ⟨n.toNat, by omega⟩
  else .error (.noSuchKey (toString n))

end Keypad

namespace Machine

/-- Replace the keypad by a snapshot. -/
def setKeypad (m : Machine) (s : Value) : Except Error Machine := do
  .ok { m with keypad := ← Keypad.ofSnapshot s }

/-- Push a key down. -/
def pressKey (m : Machine) (n : Int) : Except Error Machine := do
  .ok { m with keypad := m.keypad.press (← Keypad.key n) }

/-- Let a key go. -/
def releaseKey (m : Machine) (n : Int) : Except Error Machine := do
  .ok { m with keypad := m.keypad.release (← Keypad.key n) }

/-- Let all keys go. -/
def releaseAll (m : Machine) : Machine := { m with keypad := .released }

/-- The keypad after the keys that a value tells have been set.  A flag tells all keys or
    none, and a real number is no key, though it must lie between the numbers of keys. -/
def setKeys (m : Machine) (key : Value) (down : Bool) : Except Error Machine := do
  match key.number? with
  | none => throw (.kind (.order "<=" Kind.integer.name key.kindName))
  | some n =>
    if !((Number.int 0).le n && n.lt (.int Keypad.size)) then throw (.noSuchKey key.shown)
    match key, n with
    | .flag b, _ =>
      return if b then { m with keypad := Keypad.ofFlags fun _ => down } else m
    | _, .int n => if down then m.pressKey n else m.releaseKey n
    | _, .real _ => throw (.kind (.index "float64"))

/-- Push the keys down that a value tells. -/
def pressValue (m : Machine) (key : Value) : Except Error Machine := m.setKeys key true

/-- Let the keys go that a value tells. -/
def releaseValue (m : Machine) (key : Value) : Except Error Machine := m.setKeys key false

end Machine

/-! ## The keyboard -/

namespace KeyMap

/-- The characters of the keyboard, row by row. -/
def characters : List Char := "1234qwerasdfzxcv".toList

/-- The keys they stand for. -/
def keys : List Nibble := [1, 2, 3, 0xC, 4, 5, 6, 0xD, 7, 8, 9, 0xE, 0xA, 0, 0xB, 0xF]

/-- Each character with its key. -/
def entries : List (Char × Nibble) := characters.zip keys

/-- Every key has one character. -/
theorem nodup_keys : keys.Nodup ∧ keys.length = 16 := by decide

end KeyMap

end Chip8
