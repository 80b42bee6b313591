/-
  Rendering — colours.

  A scheme is a pair of colours for pixels that are on and off.  Five schemes
  are known by name.
-/
import Chip8.Grid

namespace Chip8

/-- A colour. -/
structure Rgb where
  red : UInt8
  green : UInt8
  blue : UInt8
deriving DecidableEq, Inhabited

/-- The colours of pixels that are on and off. -/
structure ColorScheme where
  on : Rgb
  off : Rgb
deriving DecidableEq

namespace ColorScheme

/-- White on black. -/
def classic : ColorScheme := ⟨⟨255, 255, 255⟩, ⟨0, 0, 0⟩⟩

/-- Green on black. -/
def green : ColorScheme := ⟨⟨0, 255, 0⟩, ⟨0, 0, 0⟩⟩

/-- Amber on black. -/
def amber : ColorScheme := ⟨⟨255, 176, 0⟩, ⟨0, 0, 0⟩⟩

/-- Cyan on dark blue. -/
def blue : ColorScheme := ⟨⟨0, 255, 255⟩, ⟨0, 0, 64⟩⟩

/-- Yellow on purple. -/
def retro : ColorScheme := ⟨⟨255, 255, 0⟩, ⟨64, 0, 64⟩⟩

/-- The schemes in the order of their names. -/
def all : List ColorScheme := [classic, green, amber, blue, retro]

/-- The scheme with a given name. -/
def ofName (s : String) : Except Error ColorScheme :=
  match (Choice.colorScheme.names.zip all).lookup s with
  | some scheme => .ok scheme
  | none => .error (.unknownChoice .colorScheme s)

/-- The scheme that a value names.  Lists and records are no names. -/
def ofValue (v : Value) : Except Error ColorScheme :=
  match v with
  | .list _ | .record _ => .error (.kind (.name v.kind))
  | v => ofName v.shown

end ColorScheme

namespace Rgb

/-- The parts of a colour. -/
def parts (c : Rgb) : List Nat := [c.red.toNat, c.green.toNat, c.blue.toNat]

/-- A colour as a value. -/
def toValue (c : Rgb) : Value := .tuple (c.parts.map fun n : Nat => .int n)

end Rgb

namespace Grid

/-- Whether the array can give the parts of the colours of a number of pixels: it is one
    part, or a row of them, or a column of rows; one part stands for three and one row
    for all pixels.  Further extents of one do not count. -/
def colors (g : Grid UInt8) (pixels : Nat) : Bool :=
  match g.extents.reverse with
  | [] => true
  | [parts] => parts = 1 || parts = 3
  | parts :: rows :: rest =>
    (parts = 1 || parts = 3) && (rows = 1 || rows = pixels) && rest.all (· = 1)

/-- One part of the colour of a pixel. -/
def part (g : Grid UInt8) (pixel i : Nat) : UInt8 :=
  let row (parts : Nat) : Nat := if parts = 1 then 0 else i
  match g.extents.reverse with
  | [] => g.cell 0
  | [parts] => g.cell (row parts)
  | parts :: rows :: _ => g.cell ((if rows = 1 then 0 else pixel) * parts + row parts)

/-- The colour of a pixel. -/
def color (g : Grid UInt8) (pixel : Nat) : Rgb :=
  ⟨g.part pixel 0, g.part pixel 1, g.part pixel 2⟩

end Grid

/-- The colours that a value gives to a number of pixels. -/
def Value.colors (v : Value) (pixels : Nat) : Except Error (Nat → Rgb) := do
  let g ← Grid.ofValue v
  if g.colors pixels then .ok g.color else .error (.array (.colorShape g.extents pixels))

end Chip8
