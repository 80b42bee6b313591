/-
  Storage — the sizes of arrays, and what is wrong with them.

  An array takes a number of bytes for each of its elements.  Sizes are written in
  binary units with three digits.
-/
import Chip8.Number
import Chip8.Text

namespace Chip8

/-- What the elements of an array are. -/
structure ElementType where
  name : String
  /-- the bytes of one element -/
  bytes : Nat
deriving DecidableEq

namespace ElementType

def uint8 : ElementType := ⟨"uint8", 1⟩
def int64 : ElementType := ⟨"int64", 8⟩
def float64 : ElementType := ⟨"float64", 8⟩

end ElementType

namespace Storage

/-- The most extents of an array. -/
def maxExtents : Nat := 64

/-- The memory that arrays are made in. -/
class Room where
  /-- the most bytes of an array -/
  bytes : Nat

/-- Unless another is given, there is room for 64 GiB. -/
instance : Room where
  bytes := .pow 2 36

/-- The bytes of an array. -/
def bytes (extents : List Nat) (type : ElementType) : Nat := extents.foldl (· * ·) type.bytes

/-- The units of sizes, each 1024 times the one before. -/
def units : List String := ["bytes", "KiB", "MiB", "GiB", "TiB", "PiB", "EiB"]

/-- The size of `n` bytes where `i` is the place of the unit, in three digits or in
    whole units. -/
def sizeIn (n i : Nat) : String :=
  let rounded (places : Nat) : Nat := roundHalfEven (n * .pow 10 places) (.pow 1024 i)
  let number :=
    if i = 0 then toString n
    else if rounded 2 < 1000 then Decimal.placed (rounded 2) 2
    else if rounded 1 < 1000 then Decimal.placed (rounded 1) 1
    else toString (rounded 0) ++ "."
  number ++ " " ++ units.getD i ""

/-- The size of `n` bytes in the greatest unit that fits into it, or in the next
    one if it rounds to that. -/
def sizeText (n : Nat) : String :=
  let i := n.log2 / 10
  sizeIn n (if roundHalfEven n (.pow 1024 i) = 1024 then i + 1 else i)

example : sizeText 500 = "500 bytes" := by decide +kernel
example : sizeText (192 * .pow 1024 2) = "192. MiB" := by decide +kernel
example : sizeText 61440000000000 = "55.9 TiB" := by decide +kernel

end Storage

/-! ## Arrays that cannot be made or do not fit -/

/-- Why an array was refused. -/
inductive ArrayError where
  | keypadShape (extents : List Nat)
  | displayShape (extents : List Nat)
  | framesShape (extents : List Nat)
  /-- an array of some extents cannot be the colours of a number of pixels -/
  | colorShape (extents : List Nat) (pixels : Nat)
  /-- the rows of a nested list differ in shape below the given extents -/
  | ragged (extents : List Nat)
  /-- lists are nested too deep -/
  | tooDeep
  /-- too many extents are given -/
  | tooManyExtents (found : Nat)
  | negativeExtent
  /-- an extent does not fit into 64 bits -/
  | extentOverflow
  /-- the number of elements does not fit into 64 bits -/
  | countOverflow
  /-- the size in bytes does not fit into 64 bits -/
  | bytesOverflow
  /-- there is no room for the array -/
  | noRoom (extents : List Nat) (type : ElementType)
  /-- a length to fill is below zero -/
  | negativeLength
  /-- a place in a nested list is empty -/
  | missingValue
  /-- a place in a nested list holds a value that is no number and names no type -/
  | elementValue (shown type : String)

namespace ArrayError

/-- The wording of an error. -/
def message : ArrayError → String
  | keypadShape s => "Keypad snapshot must have 16 entries, got shape " ++ Text.shape s
  | displayShape s => "Expected display shape (32, 64), got " ++ Text.shape s
  | framesShape s => "Expected frames shape (N, 32, 64), got " ++ Text.shape s
  | colorShape s pixels =>
    "shape mismatch: value array of shape " ++ Text.denseShape s ++
      " could not be broadcast to indexing result of shape " ++ Text.denseShape [pixels, 3]
  | ragged s =>
    "setting an array element with a sequence. The requested array has an inhomogeneous shape " ++
      "after " ++ toString s.length ++ " dimensions. The detected shape was " ++ Text.shape s ++
      " + inhomogeneous part."
  | tooDeep =>
    "setting an array element with a sequence. The requested array would exceed the maximum " ++
      "number of dimension of " ++ toString Storage.maxExtents ++ "."
  | tooManyExtents found =>
    "maximum supported dimension for an ndarray is currently " ++ toString Storage.maxExtents ++
      ", found " ++ toString found
  | negativeExtent => "negative dimensions are not allowed"
  | extentOverflow => "Maximum allowed dimension exceeded"
  | countOverflow => "Maximum allowed size exceeded"
  | bytesOverflow =>
    "array is too big; `arr.size * arr.dtype.itemsize` is larger than the maximum possible size."
  | noRoom s type =>
    "Unable to allocate " ++ Storage.sizeText (Storage.bytes s type) ++
      " for an array with shape " ++ Text.shape s ++ " and data type " ++ type.name
  | negativeLength => "all elements of `new_shape` must be non-negative"
  | missingValue => "None is not a valid value for jnp.array"
  | elementValue s type =>
    "Value '" ++ s ++ "' with dtype " ++ type ++
      " is not a valid JAX array type. Only arrays of numeric types are supported by JAX."

end ArrayError

end Chip8
