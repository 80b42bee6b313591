/-
  Hosts — the log.

  A logger prints the messages whose level reaches its own.  A level may be
  given by any text; one that is no level counts as `INFO` and is shown as
  given.  Every fault is counted, whether its line is printed or not.  What has
  been printed is kept as lines with their levels, so that the level of a logger
  is seen to do nothing but choose among them.
-/
import Chip8.Value.Reading

namespace Chip8

/-- The levels of a message. -/
inductive LogLevel where
  | debug
  | info
  | warning
  | error
  | critical
deriving DecidableEq

namespace LogLevel

/-- The name of a level. -/
def name : LogLevel → String
  | debug => "DEBUG"
  | info => "INFO"
  | warning => "WARNING"
  | error => "ERROR"
  | critical => "CRITICAL"

/-- The place of a level in their order. -/
def rank : LogLevel → Nat
  | debug => 0
  | info => 1
  | warning => 2
  | error => 3
  | critical => 4

/-- The levels in order. -/
def all : List LogLevel := [debug, info, warning, error, critical]

/-- The capital of a letter, as far as names in ASCII need it: that of an ASCII
    letter, of the dotless `ı` and of the long `ſ`. -/
def capital (c : Char) : Char := if c = 'ı' then 'I' else if c = 'ſ' then 'S' else c.toUpper

/-- The level with a given name, capitals or not. -/
def ofName? (s : String) : Option LogLevel :=
  all.find? fun l => l.name.toList == s.toList.map capital

theorem map_name_all : all.map name = Choice.logLevel.names := rfl

theorem ofName?_name (l : LogLevel) : ofName? l.name = some l := by
  cases l <;> decide +kernel

/-- The escape sequence for the colour of a level. -/
def color : LogLevel → String
  | debug => "\x1b[36m"
  | info => "\x1b[32m"
  | warning => "\x1b[33m"
  | error => "\x1b[31m"
  | critical => "\x1b[35m"

end LogLevel

/-- The escape sequence that ends a colour. -/
def colorReset : String := "\x1b[0m"

/-- The escape sequence before a level given by any text: its colour, or the end of
    a colour if that is named. -/
def colorOf (level : String) : String :=
  match LogLevel.ofName? level with
  | some l => l.color
  | none => if level.toList.map LogLevel.capital = "RESET".toList then colorReset else ""

/-- A printed line and the level of its message. -/
structure LogLine where
  level : LogLevel
  text : String
deriving DecidableEq

/-- How often each fault was met. -/
structure FaultCounts where
  unsupportedOpcode : Nat := 0
  stackOverflow : Nat := 0
  stackUnderflow : Nat := 0
  memoryOutOfBounds : Nat := 0
deriving DecidableEq

namespace FaultCounts

/-- The count of one fault. -/
def get (c : FaultCounts) : Fault → Nat
  | .unsupportedOpcode => c.unsupportedOpcode
  | .stackOverflow => c.stackOverflow
  | .stackUnderflow => c.stackUnderflow
  | .memoryOutOfBounds => c.memoryOutOfBounds

/-- One more of a fault. -/
def count (c : FaultCounts) : Fault → FaultCounts
  | .unsupportedOpcode => { c with unsupportedOpcode := c.unsupportedOpcode + 1 }
  | .stackOverflow => { c with stackOverflow := c.stackOverflow + 1 }
  | .stackUnderflow => { c with stackUnderflow := c.stackUnderflow + 1 }
  | .memoryOutOfBounds => { c with memoryOutOfBounds := c.memoryOutOfBounds + 1 }

theorem get_count (c : FaultCounts) (f g : Fault) :
    (c.count f).get g = c.get g + if g = f then 1 else 0 := by
  cases f <;> cases g <;> rfl

/-- The counts that are not zero, by name. -/
def text (c : FaultCounts) : String :=
  let met := Fault.all.filter fun f => c.get f != 0
  "\x7b" ++ Text.commas (met.map fun f => Text.quoted f.name ++ ": " ++ toString (c.get f)) ++
    "\x7d"

/-- No fault was met. -/
def isZero (c : FaultCounts) : Bool := Fault.all.all fun f => c.get f == 0

end FaultCounts

/-- What a logger is made with; its name may be shown for any value. -/
structure LoggerSettings where
  name : String := "chip8core"
  /-- the name of the lowest level to print -/
  level : Value := .text "INFO"
  /-- faults, resets and runs can be logged, not messages only -/
  emulation : Bool := true
  /-- colours are wanted; they are used on a terminal -/
  colors : Bool := true
  timestamps : Bool := true
  /-- the output is a terminal -/
  terminal : Bool := false

namespace LoggerSettings

/-- Settings with one more field. -/
def set (s : LoggerSettings) (name : String) (v : Value) : Except Error LoggerSettings :=
  match name with
  | "name" => .ok { s with name := v.shown }
  | "log_level" => .ok { s with level := v }
  | "use_colors" => .ok { s with colors := v.truth }
  | "show_timestamps" => .ok { s with timestamps := v.truth }
  | name => .error (.call (.unknown "ConsoleLogger.__init__()" name))

/-- The name of what is made with the settings. -/
def maker (s : LoggerSettings) : String :=
  "chip8core.logging." ++ (if s.emulation then "EmulatorLogger" else "ConsoleLogger") ++ "()"

/-- Settings with the fields of a record. -/
def withFields (s : LoggerSettings) : Value → Except Error LoggerSettings
  | .record fields => fields.foldlM (fun s (name, v) => s.set name v) s
  | v => .error (.call (.unnamed s.maker v.kind))

end LoggerSettings

/-- A logger and what it has printed. -/
structure Logger where
  name : String
  /-- the lowest level that is printed -/
  threshold : LogLevel
  emulation : Bool
  colored : Bool
  timestamps : Bool
  /-- when the logger was made, in seconds -/
  startTime : Value
  /-- the present, in seconds -/
  now : Value
  counts : FaultCounts
  printed : Array LogLine

namespace Logger

/-- A logger that has printed nothing. -/
def ofSettings (s : LoggerSettings) (now : Value) : Except Error Logger :=
  match s.level with
  | .text level =>
    match LogLevel.ofName? level with
    | none => .error (.unknownChoice .logLevel level)
    | some threshold => .ok
      { name := s.name
        threshold
        emulation := s.emulation
        colored := s.colors && s.terminal
        timestamps := s.timestamps
        startTime := now
        now
        counts := {}
        printed := #[] }
  | level => .error (.noCapitals level)

/-- The seconds since the logger was made. -/
def elapsed (l : Logger) : Except Error Number :=
  match l.now.number?, l.startTime.number? with
  | some now, some start => now.sub start
  | _, _ => .error (.noOperation "-" l.now l.startTime)

/-- The time at the beginning of a line, if it can be written down. -/
def stamp (l : Logger) : Except Error String :=
  if l.timestamps then do
    let seconds ← (← l.elapsed).fixed 2
    .ok ("[" ++ Decimal.padLeft 8 seconds ++ "s]")
  else .ok ""

/-- The level of a line, in its colour. -/
def label (l : Logger) (level : String) : String :=
  let text := "[" ++ Decimal.padLeft 8 level ++ "]"
  if l.colored then colorOf level ++ text ++ colorReset else text

/-- A line as it is printed.  A time that cannot be written down is left out. -/
def line (l : Logger) (level message : String) : String :=
  l.stamp.toOption.getD "" ++ l.label level ++ "[" ++ l.name ++ "] " ++ message

/-- The level as which a level given by any text counts. -/
def severity (level : String) : LogLevel := (LogLevel.ofName? level).getD .info

/-- Whether messages at a level are printed. -/
def prints (l : Logger) (level : LogLevel) : Bool := l.threshold.rank ≤ level.rank

/-- Log a message at a level given by any text. -/
def log (l : Logger) (level message : String) : Logger :=
  if l.prints (severity level) then
    { l with printed := l.printed.push ⟨severity level, l.line level message⟩ }
  else l

/-- Log a message at one of the five levels. -/
def logAt (l : Logger) (level : LogLevel) (message : String) : Logger := l.log level.name message

/-- Log a message at level `INFO`. -/
def info (l : Logger) (message : String) : Logger := l.logAt .info message

/-- Why a message at a level cannot be printed: its time cannot be written
    down. -/
def refusal? (l : Logger) (level : LogLevel) : Option Error :=
  if l.prints level then
    match l.stamp with
    | .error e => some e
    | .ok _ => none
  else none

/-- The outcome of logging at a level, where `after` is the logger afterwards:
    nothing is printed if the time cannot be written down. -/
def outcome (l : Logger) (level : LogLevel) (after : Logger) : Logger × Except Error Unit :=
  match l.refusal? level with
  | some e => ({ after with printed := l.printed }, .error e)
  | none => (after, .ok ())

/-- Log that a program was loaded. -/
def logRomLoaded (l : Logger) (source size : Value) : Logger :=
  l.info ("Loaded ROM " ++ source.shown ++ " (" ++ size.shown ++ " bytes)")

/-- Log that the machine was reset. -/
def logReset (l : Logger) (seed : Value) : Logger :=
  l.info ("Machine reset (seed=" ++ seed.shown ++ ")")

/-- The level of a fault: an error if the machine is halted and a warning
    otherwise. -/
def faultLevel (action : String) : LogLevel := if action = "halt" then .error else .warning

/-- Count a fault and log its description with what is done about it. -/
def logDescribed (l : Logger) (f : Fault) (description action : String) : Logger :=
  { l with counts := l.counts.count f }.logAt (faultLevel action)
    (description ++ " -> " ++ action)

/-- Count a fault and log it with what is done about it. -/
def logFault (l : Logger) (f : Fault) (pc word : Int) (action : String) : Logger :=
  l.logDescribed f (Fault.describe (some f) pc word) action

/-- The line above and below a summary. -/
def rule : String := .ofList (List.replicate 60 '=')

/-- The instructions per second, zero if no time has passed. -/
def rate (instructions : Value) (elapsed : Number) (kind : Kind) : Except Error Float :=
  if elapsed.isPositive then
    match instructions.number? with
    | some n => n.div elapsed
    | none => .error (.kind (.operation "/" instructions.kindName kind.name))
  else .ok 0

/-- The time of a summary: the time given, or if none is the time since the logger
    was made. -/
def summaryTime (l : Logger) (time : Value) : Except Error Number :=
  match time, time.number? with
  | .null, _ => l.elapsed
  | _, some t => .ok t
  | _, none => .error (.noOrder ">" time)

/-- The kind of the time of a summary. -/
def timeKind (l : Logger) : Value → Kind
  | .null => (l.elapsed.map Number.kind).toOption.getD .real
  | time => time.kind

/-- Log the totals of a run that took a given time, or the time since the logger
    was made.  If they cannot be written down, what was logged before stays. -/
def logRunSummary (l : Logger) (instructions frames time : Value) : Logger × Except Error Unit :=
  match l.summaryTime time with
  | .error e => (l, .error e)
  | .ok elapsed =>
    match rate instructions elapsed (l.timeKind time), l.refusal? .info with
    | .error e, _ => (l, .error e)
    | _, some e => (l, .error e)
    | .ok perSecond, none =>
      let l := l.info rule
      match elapsed.fixed 2 with
      | .error e => (l, .error e)
      | .ok seconds =>
        let l := l.info ("Executed " ++ instructions.shown ++ " instructions over " ++
          frames.shown ++ " frames in " ++ seconds ++ "s (" ++ Decimal.fixed 0 perSecond ++ " Hz)")
        let l := if l.counts.isZero then l else l.info ("Faults: " ++ l.counts.text)
        (l.info rule, .ok ())

end Logger

end Chip8
