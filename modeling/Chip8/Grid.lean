/-
  Arrays of any number of dimensions.

  An array can be made if its extents and its size in bytes can be counted in 64 bits,
  and there is room for it.  Callers hand over keypads, displays and films as nested
  lists: `Nested.grid` turns one into its extents and its cells in row-major order, if
  all lists at the same depth have the same shape and they are not nested too deep.
-/
import Chip8.Text.Bytes
import Chip8.Value.Reading

namespace Chip8

/-! ## Making room -/

namespace Storage

/-- The bytes of an array in which each extent counts, `bytes` being those of an
    element.  An extent of zero is passed over, so that the others are looked at. -/
def countBytes (bytes : Nat) : List Int → Except ArrayError Nat
  | [] => .ok bytes
  | e :: es =>
    if e = 0 then countBytes bytes es
    else if e < 0 then .error .negativeExtent
    else if 0x8000000000000000 ≤ bytes * e.toNat then .error .bytesOverflow
    else countBytes (bytes * e.toNat) es

/-- Make room for an array. -/
def reserve [Room] (extents : List Int) (type : ElementType) : Except Error Unit := do
  if maxExtents < extents.length then throw (.array (.tooManyExtents extents.length))
  if !extents.all IntegerType.int64.holds then throw (.array .extentOverflow)
  let bytes ← (countBytes type.bytes extents).mapError .array
  if Room.bytes < bytes && !extents.contains 0 then
    throw (.array (.noRoom (extents.map Int.toNat) type))

end Storage

/-! ## Values as elements

An array of integers of a fixed width takes values of any kind: integers must fit,
reals lose their fraction, and texts are read as numerals.  What is not an integer
to begin with loses the bits there is no room for. -/

namespace IntegerType

/-- An integer without the bits there is no room for, if it fits into 64 of them. -/
def cut (t : IntegerType) (n : Int) : Except Error Int :=
  if int64.holds n then .ok (t.wrap n) else .error .longOverflow

/-- The integer as which a value is stored. -/
def pack (t : IntegerType) : Value → Except Error Int
  | .flag b => .ok b.toInt
  | .number (.int n) => if t.holds n then .ok n else .error (.ofRange n t)
  | .number (.real x) => do t.cut (← Number.truncate x)
  | .text s => do t.cut (← Text.int s)
  | v => .error (.kind (.integer v.kind))

end IntegerType

/-! ## Nested lists -/

/-- A nested list of cells. -/
inductive Nested (α : Type) where
  | cell (a : α)
  | list (items : List (Nested α))

/-- An array. -/
structure Grid (α : Type) where
  extents : List Nat
  /-- the cells by number, counted with the last index running fastest -/
  cell : Nat → α

/-- What is known of the shape of a nested list: the extents shared by all its
    parts, and whether there is nothing below them but single cells. -/
structure Outline where
  extents : List Nat
  even : Bool

/-- The common beginning of two lists. -/
def commonStart : List Nat → List Nat → List Nat
  | a :: as, b :: bs => if a = b then a :: commonStart as bs else []
  | _, _ => []

/-- The outline shared by two parts. -/
def Outline.meet (a b : Outline) : Outline where
  extents := commonStart a.extents b.extents
  even := a.even && b.even && a.extents == b.extents

/-- The extents that an outline leaves.  Parts that differ in shape below the
    greatest depth are as good as nested deeper. -/
def Outline.settle (o : Outline) : Except Error (List Nat) :=
  let depth := o.extents.length
  if Storage.maxExtents < depth || (depth = Storage.maxExtents && !o.even) then
    .error (.array .tooDeep)
  else if o.even then .ok o.extents
  else .error (.array (.ragged o.extents))

namespace Nested

variable {α : Type}

mutual

/-- The cells, from left to right. -/
def cells : Nested α → List α
  | cell a => [a]
  | list items => cellsOf items

/-- The cells of several nested lists. -/
def cellsOf : List (Nested α) → List α
  | [] => []
  | n :: ns => n.cells ++ cellsOf ns

end

mutual

/-- The outline of a nested list. -/
def outline : Nested α → Outline
  | cell _ => ⟨[], true⟩
  | list items =>
    match outlineOf items with
    | none => ⟨[0], true⟩
    | some o => ⟨items.length :: o.extents, o.even⟩

/-- The outline shared by several nested lists, if there are any. -/
def outlineOf : List (Nested α) → Option Outline
  | [] => none
  | n :: ns =>
    match outlineOf ns with
    | none => some n.outline
    | some o => some (n.outline.meet o)

end

/-- The array written as a nested list. -/
def grid [Inhabited α] (n : Nested α) : Except Error (Grid α) := do
  let extents ← n.outline.settle
  let cells := n.cells.toArray
  .ok ⟨extents, fun i => cells.getD i default⟩

end Nested

mutual

/-- A value as a nested list, in which all but lists are cells. -/
def Value.nested : Value → Nested Value
  | .list items | .tuple items => .list (Value.nestedItems items)
  | v => .cell v

/-- Several values as nested lists. -/
def Value.nestedItems : List Value → List (Nested Value)
  | [] => []
  | v :: vs => v.nested :: Value.nestedItems vs

end

namespace Grid

variable {α : Type}

/-- The array of bytes that a value is: its shape is found before its elements are
    looked at. -/
def ofValue (v : Value) : Except Error (Grid UInt8) := do
  let extents ← v.nested.outline.settle
  let cells := (← v.nested.cells.mapM IntegerType.uint8.pack).toArray
  .ok ⟨extents, fun i => .ofInt (cells.getD i 0)⟩

/-- An array with the same value everywhere, if there is room for it as bytes. -/
def constant [Storage.Room] (extents : List Int) (a : α) : Except Error (Grid α) := do
  Storage.reserve extents .uint8
  .ok ⟨extents.map Int.toNat, fun _ => a⟩

/-- The extents that a value tells: one integer, or any number of them. -/
def extentsOf (shape : Value) : Except Error (List Int) :=
  match shape, shape.integer?, shape.items? with
  | .null, _, _ => .ok []
  | _, some n, _ => .ok [n]
  | .record _, _, _ | _, none, none => .error (.kind (.extents shape.literal))
  | _, none, some items => items.mapM (·.integer .length)

/-- An array of zeros with the extents that a value tells. -/
def zeros [Storage.Room] (shape : Value) : Except Error (Grid UInt8) := do
  constant (← extentsOf shape) 0

/-- The outline of the array that has the given layers. -/
def outline (layers : List (Grid α)) : Outline :=
  match layers with
  | [] => ⟨[0], true⟩
  | g :: gs =>
    { extents := layers.length :: gs.foldl (fun e l => commonStart e l.extents) g.extents
      even := gs.all (·.extents == g.extents) }

/-- Arrays of one shape as the layers of one array. -/
def stack [Inhabited α] (layers : List (Grid α)) : Except Error (Grid α) := do
  let extents ← (outline layers).settle
  let size := (extents.drop 1).foldl (· * ·) 1
  let layers := layers.toArray
  .ok ⟨extents, fun i => (layers[i / size]?.map (·.cell (i % size))).getD default⟩

end Grid

end Chip8
