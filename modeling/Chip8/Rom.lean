/-
  CHIP-8 machine — programs.

  A program is a list of bytes.  Loading copies it to `0x200`, if it fits between
  there and the end of memory and within the limit of the caller, who may give any
  value for it.
-/
import Chip8.Value.Reading

namespace Chip8

/-- The bytes of a program. -/
abbrev Rom := List UInt8

namespace Rom

/-- The largest program that fits into memory. -/
def maxSize : Nat := Memory.size - Memory.programStart

/-- The largest program that is accepted under a limit of the caller's. -/
def limit (max : Value) : Except Error Value :=
  match max, max.number? with
  | .null, _ => .ok (.int maxSize)
  | _, some n => .ok (if (Number.int maxSize).lt n then .int maxSize else max)
  | _, none => .error (.kind (.order "<" Kind.integer.name max.kindName))

/-- Whether a program of some size is too large for a limit. -/
def exceeds (size : Nat) (limit : Value) : Bool := limit.number?.any (·.lt (.int size))

theorem limit_int (n : Int) : limit (.int n) = .ok (.int (min n maxSize)) := by
  simp only [limit, Value.int, Value.number?, Number.lt_int]
  split
  · rw [Int.min_eq_right (by omega)]
  · rw [Int.min_eq_left (by omega)]

theorem exceeds_int (size : Nat) (n : Int) : exceeds size (.int n) = true ↔ n < size := by
  simp [exceeds, Value.int, Value.number?, Number.lt_int]

end Rom

namespace Machine

/-- The machine with a program in memory, whatever its size. -/
def withRom (m : Machine) (rom : Rom) : Machine :=
  { m with memory := m.memory.writeBytes Memory.programStart rom }

/-- Load a program, unless it is too large. -/
def loadRom (m : Machine) (rom : Rom) (max : Value) : Except Error Machine := do
  let limit ← Rom.limit max
  if Rom.exceeds rom.length limit then .error (.romTooLarge rom.length limit)
  else .ok (m.withRom rom)

/-- Load a program of `n` equal bytes, none if `n` is not positive. -/
def loadFill [Storage.Room] (m : Machine) (byte n max : Value) : Except Error Machine := do
  let byte ← byte.integer .length
  if !IntegerType.uint8.holds byte then throw .notByte
  let n ← n.integer .repetition
  if !IntegerType.int64.holds n then throw .repetitionOverflow
  if Storage.Room.bytes < n then throw .noRoomToRepeat
  let limit ← Rom.limit max
  if Rom.exceeds n.toNat limit then throw (.romTooLarge n.toNat limit)
  m.loadRom (List.replicate n.toNat (.ofInt byte)) max

/-- The machine at power-on with the random source of a seed, which must fit
    into 64 bits. -/
def ofSeed (seed : Int) : Except Error Machine :=
  if IntegerType.int64.holds seed then .ok (powerOn (.ofSeed seed)) else .error .longOverflow

end Machine

end Chip8
