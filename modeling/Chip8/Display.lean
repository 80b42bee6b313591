/-
  CHIP-8 machine — the display and sprites.

  32 rows of 64 pixels.  A row is a 64-bit word whose highest bit is its
  leftmost pixel, so drawing is an exclusive or of whole rows, and a sprite
  that wraps round the right edge is a rotation.  A sprite is up to fifteen
  bytes of memory, one per row, drawn from the pixel `(px, py)` on and wrapping
  at both edges.  `Sprite.mask` is the set of pixels it covers; drawing toggles
  exactly these.
-/
import Chip8.Memory

namespace Chip8

/-- One row of pixels, the leftmost in the highest bit. -/
abbrev PixelRow := BitVec 64

/-- The rows of the display, from the top. -/
abbrev Display := Vector PixelRow 32

namespace Display

/-- Pixels in a row. -/
def width : Nat := 64

/-- Rows. -/
def height : Nat := 32

/-- All pixels off. -/
def blank : Display := Vector.replicate 32 0

/-- Whether the pixel in row `y` and column `x` is on. -/
def pixel (d : Display) (y : Fin 32) (x : Fin 64) : Bool := d[y].getMsbD x

/-- The display with the given pixels on. -/
def ofPixels (f : Fin 32 → Fin 64 → Bool) : Display :=
  Vector.ofFn fun y => (BitVec.ofBoolListBE (List.ofFn (f y))).cast List.length_ofFn

theorem pixel_ofPixels (f : Fin 32 → Fin 64 → Bool) (y : Fin 32) (x : Fin 64) :
    (ofPixels f).pixel y x = f y x := by
  simp only [ofPixels, pixel, Fin.getElem_fin, Vector.getElem_ofFn, BitVec.getMsbD_cast,
    BitVec.getMsbD_ofBoolListBE, List.getD_eq_getElem?_getD, List.getElem?_ofFn]
  simp only [x.isLt, dite_true, Option.getD_some, Fin.eta]

/-- Toggle every pixel that is on in `mask`. -/
def toggle (d mask : Display) : Display := Vector.zipWith (· ^^^ ·) d mask

theorem pixel_toggle (d mask : Display) (y : Fin 32) (x : Fin 64) :
    (d.toggle mask).pixel y x = (d.pixel y x ^^ mask.pixel y x) := by
  simp [toggle, pixel]

/-- Some pixel is on in both. -/
def overlaps (d mask : Display) : Bool :=
  (List.finRange 32).any fun y => d[y] &&& mask[y] != 0

/-- The number of pixels that are on. -/
def lit (d : Display) : Nat :=
  ((List.finRange 32).flatMap fun y => (List.finRange 64).filter (d.pixel y)).length

end Display

/-! ## Sprites -/

namespace Sprite

/-- The pixels in a row of a sprite. -/
def width : Nat := 8

/-- The display row that shows the byte `b` from column `px` on, wrapping at
    the right edge. -/
def row (b : UInt8) (px : Nat) : PixelRow := (b.toBitVec.setWidth 64 <<< 56).rotateRight px

/-- The pixels covered by the sprite of `height` rows at address `index`,
    drawn from column `px` and row `py` on. -/
def mask (m : Memory) (index px py height : Nat) : Display :=
  Vector.ofFn fun y =>
    let r := (y.val + 32 - py % 32) % 32
    if r < height then row (m.read (index + r)) px else 0

end Sprite

end Chip8
