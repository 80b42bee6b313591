/-
  Rendering — the bytes of images and videos.

  An image is written in the PNG format, its pixels in stored (uncompressed)
  blocks.  A film is written as its frames one after another in the portable
  pixmap format.
-/
import Chip8.Render.Video

namespace Chip8

namespace Image

/-- The three bytes of every pixel, row by row, each row after the bytes `lead`. -/
def samples (i : Image) (lead : List UInt8) : List UInt8 :=
  i.rows.toList.flatMap fun row =>
    lead ++ row.toList.flatMap fun c => [c.red, c.green, c.blue]

end Image

namespace Png

/-- A number in four bytes, the high one first. -/
def bigEndian (n : UInt32) : List UInt8 :=
  [(n >>> 24).toUInt8, (n >>> 16).toUInt8, (n >>> 8).toUInt8, n.toUInt8]

/-- One bit of the cyclic redundancy check. -/
def crcBit (c : UInt32) : UInt32 :=
  if (c &&& 1) == 1 then (c >>> 1) ^^^ 0xEDB88320 else c >>> 1

/-- One byte of the cyclic redundancy check. -/
def crcByte (c : UInt32) (b : UInt8) : UInt32 :=
  (List.range 8).foldl (fun c _ => crcBit c) (c ^^^ b.toUInt32)

/-- The cyclic redundancy check of some bytes. -/
def crc (bs : List UInt8) : UInt32 := ~~~(bs.foldl crcByte 0xFFFFFFFF)

/-- The Adler checksum of some bytes. -/
def adler (bs : List UInt8) : UInt32 :=
  let (a, b) := bs.foldl (fun (a, b) x =>
    let a := (a + x.toUInt32) % 65521
    (a, (b + a) % 65521)) ((1 : UInt32), (0 : UInt32))
  b <<< 16 ||| a

/-- A chunk: length, name, data and check. -/
def chunk (name : String) (data : List UInt8) : List UInt8 :=
  let named := name.toUTF8.toList ++ data
  bigEndian (.ofNat data.length) ++ named ++ bigEndian (crc named)

/-- Two bytes, the low one first. -/
def littleEndian (n : Nat) : List UInt8 := [.ofNat n, .ofNat (n / 256)]

/-- The most bytes in a stored block. -/
def blockSize : Nat := 65535

/-- A stored block: whether it is the last, its size, the complement of that, and
    the bytes. -/
def block (last : Bool) (bs : List UInt8) : List UInt8 :=
  last.toUInt8 :: (littleEndian bs.length ++ littleEndian (blockSize - bs.length) ++ bs)

/-- Bytes in stored blocks. -/
def blocks (bs : List UInt8) : List UInt8 :=
  if bs.length ≤ blockSize then block true bs
  else block false (bs.take blockSize) ++ blocks (bs.drop blockSize)
termination_by bs.length
decreasing_by
  have : 0 < blockSize := by decide
  simp only [List.length_drop]
  omega

/-- Bytes as a stream of stored blocks. -/
def stored (bs : List UInt8) : List UInt8 :=
  [0x78, 0x01] ++ blocks bs ++ bigEndian (adler bs)

/-- The bytes of an image. -/
def encode (i : Image) : List UInt8 :=
  [0x89, 0x50, 0x4E, 0x47, 0x0D, 0x0A, 0x1A, 0x0A] ++
    chunk "IHDR" (bigEndian (.ofNat i.width) ++ bigEndian (.ofNat i.height) ++ [8, 2, 0, 0, 0]) ++
    chunk "IDAT" (stored (i.samples [0])) ++ chunk "IEND" []

end Png

namespace Pixmap

/-- The bytes of an image. -/
def encode (i : Image) : List UInt8 :=
  ("P6\n" ++ toString i.width ++ " " ++ toString i.height ++ "\n255\n").toUTF8.toList ++
    i.samples []

/-- The bytes of the frames given to a writer. -/
def encodeFilm (calls : List VideoCall) : List UInt8 :=
  calls.flatMap fun c =>
    match c with
    | .frame i => encode i
    | _ => []

end Pixmap

end Chip8
