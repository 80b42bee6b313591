/-
  The program — running without a window.

  A program is loaded, run for a number of frames, and the result reported: a
  summary in the log, the last display as an image, all displays as a video.
  What is written is collected in a `Report`, which stays as it is when a later
  part fails.
-/
import Chip8.Host.Basic
import Chip8.Program.FileTree
import Chip8.Program.Options
import Chip8.Render.Format
import Chip8.Render.Video

namespace Chip8

/-- What a run leaves behind: its log, and the image and video it saved. -/
structure Report where
  logger : Logger
  /-- the saved image and the place of its file -/
  image : Option (Location × Image) := none
  /-- the calls that wrote the video -/
  video : Option (List VideoCall) := none

/-- A part of a run that adds to its report and can fail. -/
abbrev Reporting := ExceptT Error (StateM Report)

namespace Report

/-- Fail with an error. -/
def fail {α : Type} (e : Error) : Reporting α := throw e

/-- Go on with a value, or fail. -/
def take {α : Type} : Except Error α → Reporting α
  | .ok a => pure a
  | .error e => fail e

/-- Log a message at level `INFO`. -/
def info (message : String) : Reporting Unit :=
  modify fun r => { r with logger := r.logger.info message }

/-- Log a message at level `ERROR`. -/
def error (message : String) : Reporting Unit :=
  modify fun r => { r with logger := r.logger.logAt .error message }

end Report

namespace Host

/-- Run up to `n` frames, until the host is halted: the host afterwards, and the
    display after each frame that was run. -/
def runFrames (h : Host) : Nat → Host × Except Error (List Display)
  | 0 => (h, .ok [])
  | n + 1 =>
    match h.runFrame with
    | (h, .error e) => (h, .error e)
    | (h, .ok _) =>
      if h.halted then (h, .ok [h.machine.display])
      else
        let (h', rest) := h.runFrames n
        (h', rest.map (h.machine.display :: ·))

end Host

namespace Given

variable {α : Type}

/-- The value, or an error about a list, as nothing is shown. -/
def orKind (g : Given α) (e : Kind → KindError) : Except Error α :=
  match g with
  | value a => .ok a
  | nothing => .error (.kind (e .list))

/-- What is set, as a value; nothing is an empty list. -/
def toValue (g : Given α) (f : α → Value) : Value :=
  match g with
  | value a => f a
  | nothing => .list []

end Given

namespace Options

/-- The logger of a run. -/
def logger (o : Options) (terminal : Bool) (now : Number) : Except Error Logger :=
  Logger.ofSettings { level := o.logLevel.toValue fun l => .text l.name, terminal } (.number now)

/-- The configuration of the host. -/
def hostConfig (o : Options) : Except Error HostConfig :=
  HostConfig.ofSettings
    { instructionFrequency := o.frequency.toValue .int
      seed := o.seed.toValue .int
      faultPolicy := o.faultPolicy.toValue fun p => .text p.name }

/-- A file name that was given and is not empty. -/
def named (s : Option (Given String)) : Option String :=
  match s with
  | some (.value name) => if name.isEmpty then none else some name
  | _ => none

/-- Make the host for the program in a file, or log why the file cannot be
    used. -/
def load (o : Options) (file : Except Error Rom) : Reporting (Option Host) := do
  let config ← Report.take o.hostConfig
  let logger := (← get).logger
  match (do Host.create config (← file) logger (.text o.rom) : Except Error Host) with
  | .ok h =>
    modify fun r => { r with logger := h.logger }
    return some h
  | .error e =>
    let refused := match e with | .romTooLarge .. => true | _ => e.isFileError
    if refused then
      Report.error ("Could not load " ++ o.rom ++ ": " ++ e.message)
      return none
    else Report.fail e

/-- Without a seed there is no random source, and no frame can be run. -/
def checkSeed (o : Options) (h : Host) (frames : Int) : Except Error Unit :=
  match o.seed with
  | .value _ => .ok ()
  | .nothing =>
    if frames ≤ 0 then .ok ()
    else if 0x80000000 ≤ h.config.instructionsPerFrame then
      .error (.stepsOverflow h.config.instructionsPerFrame)
    else .error (.kind (.key .list))

/-- Run the frames asked for.  A progress bar can only count a number of frames
    that fits into 64 bits. -/
def play (o : Options) (h : Host) : Reporting (Host × List Display) := do
  let frames ← Report.take (o.frames.orKind .length)
  if !o.noProgress && 0x8000000000000000 ≤ frames then Report.fail .lengthOverflow
  Report.take (o.checkSeed h frames)
  let (h, displays) := h.runFrames frames.toNat
  modify fun r => { r with logger := h.logger }
  return (h, ← Report.take displays)

/-- Fail if a format cannot hold an image. -/
def refuse (e : Option FormatError) : Reporting Unit :=
  match e with
  | some e => Report.fail (.format e)
  | none => pure ()

section
variable [Storage.Room]

/-- Save the last display as an image, in the file that `create` opens under the
    name. -/
def saveImage (o : Options) (create : String → Except Error Location) (d : Display)
    (name : String) : Reporting Unit := do
  let scheme ← Report.take (ColorScheme.ofValue (o.colorScheme.toValue .text))
  let scale ← Report.take (Image.scaleOf (o.scale.toValue .int))
  let image ← Report.take (Image.ofDisplay? d scale scheme)
  let refusal := ImageFormat.refusal? (fileEnding name)
  refuse (refusal.filter FormatError.early)
  let location ← Report.take (create name)
  refuse refusal
  modify fun r => { r with image := some (location, image) }
  Report.info ("Saved final frame to " ++ name)

/-- Save the displays as a video. -/
def saveFilm (o : Options) (film : List Display) (name : String) : Reporting Unit := do
  let (calls, written) := writeFilm (film.map Glow.ofDisplay) name
    { scale := o.scale.toValue .int, scheme := o.colorScheme.toValue .text }
  if !calls.isEmpty then modify fun r => { r with video := some calls }
  Report.take written
  Report.info ("Saved " ++ toString film.length ++ " frames to " ++ name)

/-- Save the last display, if an image was asked for. -/
def reportImage (o : Options) (create : String → Except Error Location) (d : Display) :
    Reporting Unit :=
  match named o.saveFrame with
  | some name => o.saveImage create d name
  | none => pure ()

/-- Save the displays, if a video was asked for and there are any. -/
def reportFilm (o : Options) (film : List Display) : Reporting Unit :=
  match named o.saveVideo with
  | some name => if film.isEmpty then pure () else o.saveFilm film name
  | none => pure ()

/-- Report a run that took a number of seconds. -/
def report (o : Options) (create : String → Except Error Location) (h : Host)
    (film : List Display) (elapsed : Number) : Reporting Unit := do
  let (logger, summary) := (← get).logger.logRunSummary (.int h.instructionCount)
    (.int h.frameCount) (.number elapsed)
  modify fun r => { r with logger }
  Report.take summary
  o.reportImage create h.machine.display
  o.reportFilm film

/-- Load, run and report, in no time at all: the exit code, one if the program
    could not be loaded or the host was halted. -/
def headless (o : Options) (files : FileTree) : Reporting Nat := do
  match ← o.load (files.read o.rom) with
  | none => return 1
  | some h =>
    let (h, film) ← o.play h
    o.report files.create h film (.int 0)
    return if h.halted then 1 else 0

end

end Options

/-- The outcome of a run: its report, if it got as far as to have a log, and its
    exit code or error. -/
structure Outcome where
  report : Option Report
  result : Except Error Nat

/-- Run the program with the given arguments among files, with the clock
    standing still. -/
def runProgram [Storage.Room] (arguments : List String) (files : FileTree) : Outcome :=
  match Options.ofArguments arguments with
  | .error q => ⟨none, .ok q.exitCode⟩
  | .ok o =>
    match o.logger false (.int 0) with
    | .error e => ⟨none, .error e⟩
    | .ok logger =>
      let (result, report) := (o.headless files).run.run { logger }
      ⟨some report, result⟩

end Chip8
