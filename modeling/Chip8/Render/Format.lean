/-
  Rendering — the formats of image files.

  The ending of a file name says in which format an image is written.  A few formats
  are known that cannot hold it; some of them show that only when the file is already
  open.
-/
import Chip8.Error
import Chip8.Text.Lowercase

namespace Chip8

/-- The ending of a file name, with its dot and in small letters.  Dots at the
    beginning of the name do not begin an ending. -/
def fileEnding (name : String) : String :=
  let base := (name.toList.reverse.takeWhile (· != '/')).reverse.dropWhile (· == '.')
  match base.reverse.dropWhile (· != '.') with
  | [] => ""
  | _ => Text.lowercase (.ofList ('.' :: (base.reverse.takeWhile (· != '.')).reverse))

namespace ImageFormat

/-- The endings of the formats in which images are written. -/
def written : List String :=
  [ ".apng", ".avif", ".avifs", ".bmp", ".bw", ".dds", ".dib", ".eps", ".gif", ".icb", ".icns",
    ".ico", ".im", ".j2c", ".j2k", ".jfif", ".jp2", ".jpc", ".jpe", ".jpeg", ".jpf", ".jpg",
    ".jpx", ".mpo", ".pbm", ".pcx", ".pdf", ".pfm", ".pgm", ".png", ".pnm", ".ppm", ".ps", ".qoi",
    ".rgb", ".rgba", ".sgi", ".tga", ".tif", ".tiff", ".vda", ".vst", ".webp" ]

/-- The endings of the formats in which no image is written, and why. -/
def refused : List (String × FormatError) :=
  [ (".cur", .readOnly "CUR"), (".dcx", .readOnly "DCX"), (".fit", .readOnly "FITS"),
    (".fits", .readOnly "FITS"), (".flc", .readOnly "FLI"), (".fli", .readOnly "FLI"),
    (".ftc", .readOnly "FTEX"), (".ftu", .readOnly "FTEX"), (".gbr", .readOnly "GBR"),
    (".iim", .readOnly "IPTC"), (".mpeg", .readOnly "MPEG"), (".mpg", .readOnly "MPEG"),
    (".pcd", .readOnly "PCD"), (".psd", .readOnly "PSD"), (".pxr", .readOnly "PIXAR"),
    (".ras", .readOnly "SUN"), (".xpm", .readOnly "XPM"), (".bufr", .unhandled "BUFR"),
    (".emf", .unhandled "WMF"), (".grib", .unhandled "GRIB"), (".h5", .unhandled "HDF5"),
    (".hdf", .unhandled "HDF5"), (".wmf", .unhandled "WMF"), (".msp", .colorless "MSP"),
    (".palm", .colorless "Palm"), (".xbm", .colorless "XBM"), (".blp", .needsPalette "BLP") ]

/-- Why no image can be written with an ending. -/
def refusal? (ending : String) : Option FormatError :=
  if written.contains ending then none
  else some ((refused.lookup ending).getD (.unknown ending))

end ImageFormat

/-- Whether an error is found before the file is opened. -/
def FormatError.early : FormatError → Bool
  | unknown _ | readOnly _ => true
  | _ => false

end Chip8
