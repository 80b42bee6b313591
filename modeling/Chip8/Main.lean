/-
  The program — its entry point.

  Reads the arguments, the program file and the clock, runs without a window,
  prints the log and writes the saved image and video.  All decisions are made
  in `Chip8.Program.Headless`.
-/
import Chip8.Program.Headless
import Chip8.Render.Png

namespace Chip8.Main

/-- The seconds on the clock. -/
def clockNow : IO Number := do
  return .real (.ofNat (← IO.monoMsNow) / 1000)

/-- The bytes of a program file, or why it cannot be opened. -/
def readRom (name : String) : IO (Except Error Rom) := do
  match ← (IO.FS.readBinFile name).toBaseIO with
  | .ok bytes => return .ok bytes.toList
  | .error (.inappropriateType ..) => return .error (.file (.isDirectory name))
  | .error (.noFileOrDirectory ..) => return .error (.file (.noSuchFile name))
  | .error e => throw e

/-- Perform a part of a run, with the present time, and print what it logs. -/
def perform {α : Type} (r : Report) (part : Reporting α) : IO (Report × Except Error α) := do
  let printed := r.logger.printed.size
  let (result, r) := part.run.run { r with logger.now := .number (← clockNow) }
  for line in r.logger.printed.toList.drop printed do
    IO.println line.text
  return (r, result)

/-- Write bytes to a file. -/
def writeBytes (name : String) (bs : List UInt8) : IO Unit :=
  IO.FS.writeBinFile name (ByteArray.mk bs.toArray)

/-- Write the image and the video of a report. -/
def writeFiles (o : Options) (r : Report) : IO Unit := do
  match r.image, Options.named o.saveFrame with
  | some (_, i), some name => writeBytes name (Png.encode i)
  | _, _ => pure ()
  match r.video, Options.named o.saveVideo with
  | some calls, some name => writeBytes name (Pixmap.encodeFilm calls)
  | _, _ => pure ()

/-- Print an error and give the exit code for it. -/
def failWith (e : Error) : IO UInt32 := do
  IO.eprintln e.message
  return 1

/-- Run with the given options. -/
def runWith (o : Options) : IO UInt32 := do
  if o.window then
    IO.eprintln "There is no window to run in; run without --window."
    return 1
  match o.logger (← (← IO.getStdout).isTty) (← clockNow) with
  | .error e => failWith e
  | .ok logger =>
    let (r, loaded) ← perform { logger } (o.load (← readRom o.rom))
    match loaded with
    | .error e => failWith e
    | .ok none => return 1
    | .ok (some h) =>
      let start ← IO.monoMsNow
      let (r, played) ← perform r (o.play h)
      match played with
      | .error e => failWith e
      | .ok (h, film) =>
        let elapsed := Number.real (.ofNat ((← IO.monoMsNow) - start) / 1000)
        let (r, reported) ← perform r
          (o.report (fun name => .ok (FileTree.location name)) h film elapsed)
        writeFiles o r
        match reported with
        | .error e => failWith e
        | .ok () => return if h.halted then 1 else 0

end Chip8.Main

/-- Run the program. -/
def main (arguments : List String) : IO UInt32 :=
  match Chip8.Options.ofArguments arguments with
  | .error q => return .ofNat q.exitCode
  | .ok o => Chip8.Main.runWith o
