/-
  CHIP-8 machine — the stack of return addresses.

  Sixteen slots and an 8-bit pointer to the first free one.  `push` and `pop`
  check nothing: a push onto a full stack is dropped but still moves the
  pointer, a pop from an empty one wraps the pointer round.  Callers test
  `isFull` and `isEmpty` first.
-/
namespace Chip8

/-- The stack of return addresses. -/
structure CallStack where
  /-- the slots, a free one being zero -/
  slots : Vector UInt16 16
  /-- the first free slot -/
  pointer : UInt8
deriving DecidableEq

namespace CallStack

/-- The number of slots. -/
def capacity : Nat := 16

/-- No calls pending. -/
def empty : CallStack := ⟨Vector.replicate 16 0, 0⟩

/-- Another push would be dropped. -/
def isFull (s : CallStack) : Bool := capacity ≤ s.pointer.toNat

/-- A pop would find nothing. -/
def isEmpty (s : CallStack) : Bool := s.pointer == 0

/-- Put a return address on top. -/
def push (s : CallStack) (a : UInt16) : CallStack where
  slots := s.slots.setIfInBounds s.pointer.toNat a
  pointer := s.pointer + 1

/-- The address on top, and the stack without it.  The slot is zeroed; a
    pointer past the end reads the last slot. -/
def pop (s : CallStack) : UInt16 × CallStack :=
  let top := s.pointer - 1
  (s.slots[min top.toNat 15], { slots := s.slots.setIfInBounds top.toNat 0, pointer := top })

end CallStack

end Chip8
