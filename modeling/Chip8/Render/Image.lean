/-
  Rendering — images of the display.

  `Image.ofDisplay` colours the pixels of a display and repeats every row and
  every pixel of a row `scale` times, which is nearest-neighbour upscaling.
-/
import Chip8.Render.Color

namespace Chip8

/-- A picture, as rows of pixels from the top. -/
structure Image where
  width : Nat
  height : Nat
  rows : Vector (Vector Rgb width) height

/-- Every element `s` times in a row. -/
def stretch {α : Type} {n : Nat} (s : Nat) (v : Vector α n) : Vector α (n * s) :=
  Vector.ofFn fun i =>
    have : i.val / s < n := Nat.div_lt_of_lt_mul (Nat.mul_comm n s ▸ i.isLt)
    v[i.val / s]

namespace Image

/-- The picture whose pixels are those of `rows`, each a square of `s` by `s`. -/
def ofRows {w h : Nat} (s : Nat) (rows : Vector (Vector Rgb w) h) : Image where
  width := w * s
  height := h * s
  rows := stretch s (rows.map (stretch s))

/-- The size of a pixel for a scale given by any integer: scales below one do
    not shrink. -/
def pixelSize (scale : Int) : Nat := max 1 scale.toNat

/-- Make room for the bytes of a picture, and for those it has when it is stretched, first
    downward and then to the right.  An extent that does not fit into 64 bits wraps. -/
def reserve [Storage.Room] (scale : Int) : Except Error Unit := do
  Storage.reserve [32, 64, 3] .uint8
  if scale ≤ 1 then .ok ()
  else if !IntegerType.int64.holds scale then .error .longOverflow
  else
    Storage.reserve [(32 * scale).bmod 0x10000000000000000, 64, 3] .uint8
    Storage.reserve [32 * scale, 64 * scale, 3] .uint8

/-- The picture of a display. -/
def ofDisplay (d : Display) (scale : Int) (c : ColorScheme) : Image :=
  ofRows (pixelSize scale) (Vector.ofFn fun y => Vector.ofFn fun x =>
    if d.pixel y x then c.on else c.off)

end Image

namespace Display

/-- The display in an array, which must have 32 rows of 64 cells; a cell is on unless it
    is zero. -/
def ofGrid (g : Grid UInt8) : Except Error Display :=
  if g.extents = [32, 64] then
    .ok (ofPixels fun y x => g.cell (64 * y + x) != 0)
  else .error (.array (.displayShape g.extents))

/-- The cells of a display as an array. -/
def grid (d : Display) : Grid UInt8 where
  extents := [32, 64]
  cell i := (d.pixel (.ofNat 32 (i / 64)) (.ofNat 64 (i % 64))).toUInt8

/-- The pixels of a display, row by row. -/
def pixels (d : Display) : List Bool :=
  (List.finRange 32).flatMap fun y => (List.finRange 64).map (d.pixel y)

end Display

namespace Image

/-- The picture of a display, if there is room for it. -/
def ofDisplay? [Storage.Room] (d : Display) (scale : Int) (c : ColorScheme) :
    Except Error Image := do
  reserve scale
  .ok (ofDisplay d scale c)

/-- The scale that a value tells.  A real number that is above one loses its fraction. -/
def scaleOf (scale : Value) : Except Error Int := do
  let n ← scale.compared ">"
  if (Number.int 1).lt n then
    match n with
    | .int n => .ok n
    | .real x => Number.truncate x
  else .ok 1

/-- The colours of pixels in order, where `on` and `off` give the next colours of pixels
    that are on and off, of which `lit` and `dark` came before. -/
def colorPixels (on off : Nat → Rgb) (lit dark : Nat) : List Bool → List Rgb
  | [] => []
  | true :: rest => on lit :: colorPixels on off (lit + 1) dark rest
  | false :: rest => off dark :: colorPixels on off lit (dark + 1) rest

/-- The picture of a display in which pixels that are on have colours of their own, and so
    have those that are off. -/
def paint (d : Display) (scale : Int) (on off : Nat → Rgb) : Image :=
  let colors := (colorPixels on off 0 0 d.pixels).toArray
  ofRows (pixelSize scale) (Vector.ofFn fun y : Fin 32 => Vector.ofFn fun x : Fin 64 =>
    colors.getD (64 * y + x) default)

/-- The picture of a display in an array, in colours given by values. -/
def ofGrid [Storage.Room] (g : Grid UInt8) (scale on off : Value) : Except Error Image := do
  let d ← Display.ofGrid g
  let on ← on.colors d.lit
  let off ← off.colors (Display.height * Display.width - d.lit)
  let scale ← scaleOf scale
  reserve scale
  .ok (paint d scale on off)

/-- The picture of a display in an array, in the colours of a scheme. -/
def ofGridNamed [Storage.Room] (g : Grid UInt8) (scale scheme : Value) : Except Error Image := do
  let c ← ColorScheme.ofValue scheme
  let d ← Display.ofGrid g
  ofDisplay? d (← scaleOf scale) c

end Image

end Chip8
