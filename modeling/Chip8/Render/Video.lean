/-
  Rendering — videos.

  A video is made by calls to a writer: it is opened with a size and a rate,
  given the frames in order, and released, also if a frame cannot be made.  With
  persistence a pixel glows on after it has gone off, losing a fifth of its
  brightness with every frame.
-/
import Chip8.Render.Image

namespace Chip8

/-- A call to a video writer. -/
inductive VideoCall where
  /-- open a file for frames of a size, which is as it was computed -/
  | start (file : String) (fps : Float) (width height : Value)
  | frame (image : Image)
  | release

/-- How a video is made. -/
structure VideoSettings where
  fps : Value := .number (.real 60)
  scale : Value := .int 8
  /-- the name of the colours -/
  scheme : Value := .text "classic"
  /-- pixels glow on -/
  persistence : Bool := true

/-- The code of the video format, four characters with the first in the lowest
    byte. -/
def fourCharacterCode : Nat :=
  "mp4v".toList.foldr (fun c n => c.toNat + 256 * n) 0

/-- The brightness of every pixel, from zero to one. -/
abbrev Glow := Vector (Vector Float32 64) 32

namespace Glow

/-- All dark. -/
def dark : Glow := Vector.replicate 32 (Vector.replicate 64 0)

/-- The part of its brightness that a pixel keeps from one frame to the next. -/
def decay : Float32 := 0.8

/-- The brightness of the pixels of a display alone. -/
def ofDisplay (d : Display) : Glow :=
  Vector.ofFn fun y => Vector.ofFn fun x => if d.pixel y x then 1 else 0

/-- The brightness of the pixels in a layer of an array, each as bright as its cell. -/
def ofLayer (g : Grid UInt8) (layer : Nat) : Glow :=
  Vector.ofFn fun y => Vector.ofFn fun x => (g.cell (2048 * layer + 64 * y + x)).toFloat32

/-- A brightness kept within zero and one. -/
def clip (b : Float32) : Float32 := if b < 0 then 0 else if 1 < b then 1 else b

/-- The brightness after pixels were lit. -/
def expose (g light : Glow) : Glow :=
  Vector.zipWith (Vector.zipWith fun b s => clip (b * decay + s)) g light

/-- A channel between its values for off and on, in single precision and without
    its fraction.  Beyond a byte it keeps its low bits. -/
def mixChannel (b : Float32) (off on : UInt8) : UInt8 :=
  let off := off.toFloat32
  (off + b * (on.toFloat32 - off)).toInt32.toUInt32.toUInt8

/-- The colour of a brightness. -/
def mix (c : ColorScheme) (b : Float32) : Rgb where
  red := mixChannel b c.off.red c.on.red
  green := mixChannel b c.off.green c.on.green
  blue := mixChannel b c.off.blue c.on.blue

/-- The picture of a brightness. -/
def image (g : Glow) (scale : Int) (c : ColorScheme) : Image :=
  .ofRows (Image.pixelSize scale) (g.map (·.map (mix c)))

end Glow

/-- The frames of a film, `g` being the glow before the first. -/
def filmImages (persistence : Bool) (scale : Int) (c : ColorScheme) (g : Glow) :
    List Glow → List Image
  | [] => []
  | light :: film =>
    let g := if persistence then g.expose light else light
    g.image scale c :: filmImages persistence scale c g film

/-- The calls that write frames after a writer has been opened. -/
def frameCalls (start : VideoCall) (images : List Image) : List VideoCall :=
  start :: (images.map .frame ++ [.release])

/-- The double that a value is, wanted as a rate. -/
def Value.rate (v : Value) : Except Error Float :=
  match v.number? with
  | some n => n.toFloat
  | none => .error (.kind (.real v.kind))

/-- The scale of the first frame of a film, if there is room for it. -/
def frameScale [Storage.Room] (scale : Value) : Except Error Int := do
  let n ← Image.scaleOf scale
  Image.reserve n
  return n

/-- The colours of a film, and the call that opens its writer. -/
def openFilm (file : String) (s : VideoSettings) : Except Error (ColorScheme × VideoCall) := do
  let height ← Value.times 32 s.scale
  let width ← Value.times 64 s.scale
  let c ← ColorScheme.ofValue s.scheme
  return (c, .start file (← s.fps.rate) width height)

/-- The calls made to write a film, and whether it could be written.  The writer is
    released all the same if the first frame cannot be made. -/
def writeFilm [Storage.Room] (film : List Glow) (file : String) (s : VideoSettings) :
    List VideoCall × Except Error Unit :=
  match openFilm file s with
  | .error e => ([], .error e)
  | .ok (c, start) =>
    match if film.isEmpty then .ok 1 else frameScale s.scale with
    | .error e => (frameCalls start [], .error e)
    | .ok scale => (frameCalls start (filmImages s.persistence scale c .dark film), .ok ())

/-- The layers of an array as a film; it must have any number of layers of 32 rows of 64
    cells. -/
def Glow.filmOfGrid (g : Grid UInt8) : Except Error (List Glow) :=
  match g.extents with
  | [n, 32, 64] => .ok ((List.range n).map (Glow.ofLayer g))
  | _ => .error (.array (.framesShape g.extents))

/-- The calls that write the film in an array. -/
def writeGrid [Storage.Room] (g : Grid UInt8) (file : String) (s : VideoSettings) :
    Except Error (List VideoCall) := do
  let (calls, written) := writeFilm (← Glow.filmOfGrid g) file s
  written
  .ok calls

end Chip8
