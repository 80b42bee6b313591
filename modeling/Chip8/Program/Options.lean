/-
  The program — its options.

  Options may be given by any beginning of their name that fits one option only, with
  the value in the next argument or after `=`.  One argument names the program to
  run.  `--` makes words of all arguments after it; after `=` it stands for no
  value.  Reading goes in two passes: `Piece.ofArguments` says what each argument
  is, `Draft.read` puts the pieces together from left to right.
-/
import Chip8.Host.Config
import Chip8.Logger

namespace Chip8

/-- The options. -/
inductive OptionName where
  | help
  | window
  | frames
  | frequency
  | seed
  | faultPolicy
  | scale
  | colorScheme
  | saveFrame
  | saveVideo
  | logLevel
  | noProgress
deriving DecidableEq

namespace OptionName

/-- All spellings of the options. -/
def spellings : List (String × OptionName) :=
  [ ("-h", help), ("--help", help), ("--window", window), ("--frames", frames),
    ("--frequency", frequency), ("--seed", seed), ("--fault-policy", faultPolicy),
    ("--scale", scale), ("--color-scheme", colorScheme), ("--save-frame", saveFrame),
    ("--save-video", saveVideo), ("--log-level", logLevel), ("--no-progress", noProgress) ]

/-- Whether the option is followed by a value. -/
def takesValue : OptionName → Bool
  | help | window | noProgress => false
  | _ => true

end OptionName

/-- How reading the arguments can end early. -/
inductive Quit where
  /-- help was asked for -/
  | helped
  /-- the arguments cannot be used -/
  | refused
deriving DecidableEq

/-- The exit code of an early end. -/
def Quit.exitCode : Quit → Nat
  | helped => 0
  | refused => 2

/-! ## What each argument is -/

/-- What follows the spelling of an option in the same argument. -/
inductive Attached where
  | nothing
  /-- a text after `=` -/
  | value (text : String)
  /-- a text after the letter of the option -/
  | letters (text : String)
deriving DecidableEq

/-- What an argument is. -/
inductive Piece where
  | word (text : String)
  /-- the mark after which all arguments are words -/
  | separator
  | option (name : OptionName) (spelling : String) (attached : Attached)
  | unknown
deriving DecidableEq

namespace Piece

/-- The parts of a text before and after its first `=`. -/
def splitValue (s : List Char) : List Char × Attached :=
  match s.dropWhile (· != '=') with
  | [] => (s, .nothing)
  | _ :: value => (s.takeWhile (· != '='), .value (.ofList value))

/-- The options whose spelling begins as given.  After a single dash the first
    letter may also stand for an option by itself. -/
def candidates (s : String) : List Piece :=
  match s.toList with
  | '-' :: '-' :: _ =>
    let (start, value) := splitValue s.toList
    OptionName.spellings.filterMap fun (spelling, name) =>
      if start.isPrefixOf spelling.toList then some (option name spelling value) else none
  | cs =>
    OptionName.spellings.filterMap fun (spelling, name) =>
      if spelling.toList = cs.take 2 then
        some (option name spelling (.letters (.ofList (cs.drop 2))))
      else if cs.isPrefixOf spelling.toList then some (option name spelling .nothing) else none

/-- Whether a text is a negative number, with or without a point.  A line end
    may follow. -/
def isNegativeNumber (s : String) : Bool :=
  let isDigit (c : Char) := (Text.digitValue? c).isSome
  match s.toList with
  | '-' :: cs =>
    let cs := if cs.getLast? = some '\n' then cs.dropLast else cs
    match cs.dropWhile isDigit with
    | [] => !cs.isEmpty
    | '.' :: ds => !ds.isEmpty && ds.all isDigit
    | _ => false
  | _ => false

/-- The option with exactly the given spelling. -/
def spelled? (spelling : String) (attached : Attached) : Option Piece :=
  (OptionName.spellings.lookup spelling).map fun name => option name spelling attached

/-- What an argument before the separator is, if it begins with a dash and is
    longer than that: an option by its full spelling, or else by a beginning that
    fits one option only.  Of the rest, negative numbers and texts with a space
    are words. -/
def ofDashed (s : String) : Except Quit Piece :=
  let (start, value) := splitValue s.toList
  match spelled? s .nothing with
  | some p => .ok p
  | none =>
    match if value = .nothing then none else spelled? (.ofList start) value with
    | some p => .ok p
    | none =>
      match candidates s with
      | [p] => .ok p
      | [] => .ok (if isNegativeNumber s || s.toList.contains ' ' then word s else unknown)
      | _ => .error .refused

/-- What an argument before the separator is. -/
def ofArgument (s : String) : Except Quit Piece :=
  if s.startsWith "-" && s != "-" then ofDashed s else .ok (word s)

/-- What each argument is. -/
def ofArguments : List String → Except Quit (List Piece)
  | [] => .ok []
  | s :: rest =>
    if s = "--" then .ok (separator :: rest.map word)
    else do
      let p ← ofArgument s
      .ok (p :: (← ofArguments rest))

end Piece

/-! ## Putting the pieces together -/

/-- What an option is set to. -/
inductive Given (α : Type) where
  | value (a : α)
  /-- the option is there without a value -/
  | nothing

/-- The options of a run. -/
structure Options where
  rom : String
  window : Bool
  frames : Given Int
  frequency : Given Int
  seed : Given Int
  faultPolicy : Given FaultPolicy
  scale : Given Int
  colorScheme : Given String
  saveFrame : Option (Given String)
  saveVideo : Option (Given String)
  logLevel : Given LogLevel
  noProgress : Bool

/-- The options as far as they have been read. -/
structure Draft where
  rom : Option String := none
  window : Bool := false
  frames : Given Int := .value 600
  frequency : Given Int := .value 700
  seed : Given Int := .value 0
  faultPolicy : Given FaultPolicy := .value .halt
  scale : Given Int := .value 8
  colorScheme : Given String := .value "classic"
  saveFrame : Option (Given String) := none
  saveVideo : Option (Given String) := none
  logLevel : Given LogLevel := .value .info
  noProgress : Bool := false
  /-- there were arguments without a use -/
  surplus : Bool := false

namespace Draft

/-- Take an option without a value. -/
def flag (d : Draft) : OptionName → Except Quit Draft
  | .help => .error .helped
  | .window => .ok { d with window := true }
  | .noProgress => .ok { d with noProgress := true }
  | _ => .error .refused

/-- What a text sets an option to, if `read` can read it.  A separator sets it to
    nothing. -/
def given {α : Type} (read : String → Option α) (text : String) : Except Quit (Given α) :=
  if text = "--" then .ok .nothing
  else
    match read text with
    | some a => .ok (.value a)
    | none => .error .refused

/-- Take an option with its value. -/
def setting (d : Draft) (name : OptionName) (text : String) : Except Quit Draft := do
  match name with
  | .frames => .ok { d with frames := ← given Text.int? text }
  | .frequency => .ok { d with frequency := ← given Text.int? text }
  | .seed => .ok { d with seed := ← given Text.int? text }
  | .faultPolicy => .ok { d with faultPolicy := ← given FaultPolicy.ofName? text }
  | .scale => .ok { d with scale := ← given Text.int? text }
  | .colorScheme => .ok { d with colorScheme := ← given some text }
  | .saveFrame => .ok { d with saveFrame := some (← given some text) }
  | .saveVideo => .ok { d with saveVideo := some (← given some text) }
  | .logLevel => .ok { d with logLevel := ← given LogLevel.ofName? text }
  | _ => .error .refused

/-- The options named by letters, if each letter names one. -/
def letters (cs : List Char) : Option (List OptionName) :=
  cs.mapM fun c => OptionName.spellings.lookup (.ofList ['-', c])

/-- Take an option without a value, though a text is attached to it: only one in
    letters can have such a text, namely more letters. -/
def flagWith (d : Draft) (name : OptionName) (spelling text : String) : Except Quit Draft :=
  if spelling.startsWith "--" || text.isEmpty then .error .refused
  else
    match letters text.toList with
    | some names => (name :: names).foldlM flag d
    | none => .error .refused

/-- Take a word: the first names the program to run, and any other is one too
    many. -/
def word (d : Draft) (s : String) : Draft :=
  if d.rom.isNone then { d with rom := some s } else { d with surplus := true }

/-- Read the pieces from left to right.  The first word names the program to
    run, and takes a separator beside it with it. -/
def read (d : Draft) : List Piece → Except Quit Draft
  | [] => .ok d
  | .word s :: .separator :: rest | .word s :: rest => (d.word s).read rest
  | .separator :: rest =>
    if d.rom.isNone then d.read rest else { d with surplus := true }.read rest
  | .unknown :: rest => { d with surplus := true }.read rest
  | .option name spelling (.value text) :: rest
  | .option name spelling (.letters text) :: rest => do
    if name.takesValue then (← d.setting name text).read rest
    else (← d.flagWith name spelling text).read rest
  | .option name _ .nothing :: .word value :: rest => do
    if name.takesValue then (← d.setting name value).read rest
    else (← d.flag name).read (.word value :: rest)
  | .option name _ .nothing :: rest => do
    if name.takesValue then .error .refused else (← d.flag name).read rest

/-- The finished options: a program must be named and no argument be left. -/
def finish (d : Draft) : Except Quit Options :=
  match d.rom, d.surplus with
  | some rom, false => .ok
    { rom
      window := d.window
      frames := d.frames
      frequency := d.frequency
      seed := d.seed
      faultPolicy := d.faultPolicy
      scale := d.scale
      colorScheme := d.colorScheme
      saveFrame := d.saveFrame
      saveVideo := d.saveVideo
      logLevel := d.logLevel
      noProgress := d.noProgress }
  | _, _ => .error .refused

end Draft

/-- The options given by the arguments. -/
def Options.ofArguments (arguments : List String) : Except Quit Options := do
  (← ({} : Draft).read (← Piece.ofArguments arguments)).finish

end Chip8
