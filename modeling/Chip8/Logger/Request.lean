/-
  Hosts — requests to the log.

  A caller outside the library asks a logger to log something, with values of any
  kind for what is to be written.  `Logger.perform` does it or says why it cannot be
  done; a fault is counted even if its line cannot be written.  A fault is told by its
  number, with a program counter and a word for the description.
-/
import Chip8.Logger

namespace Chip8

/-! ## Faults told by values -/

/-- The integer that a number is equal to. -/
def Number.whole? : Number → Option Int
  | int n => some n
  | real x =>
    match Binary64.ofFloat x with
    | .finite negative units =>
      if units % Binary64.one = 0 then some (Binary64.truncate negative units) else none
    | _ => none

namespace Fault

/-- The outcome whose number a value is equal to. -/
def ofValue (code : Value) : Except Error (Option Fault) :=
  match (code.number?.bind Number.whole?).bind ofCode? with
  | some f => .ok f
  | none => .error (.noSuchFault code.literal)

/-- The description of an outcome.  The word is looked at before the program
    counter; only for a stack overflow is it cut to an address first, and only for
    a stack underflow is it not looked at. -/
def describeWith (f : Option Fault) (pc word : Value) : Except Error String := do
  match f with
  | none => .ok (describe none 0 0)
  | some .stackUnderflow => .ok (describe f (← pc.integer .hex) 0)
  | some .stackOverflow =>
    let word ← word.integer fun k => .operation "&" k.name "int"
    .ok (describe f (← pc.integer .hex) word)
  | some _ =>
    let word ← word.integer .hex
    .ok (describe f (← pc.integer .hex) word)

/-- The description of the outcome with a given number. -/
def describeValue (code pc word : Value) : Except Error String := do
  describeWith (← ofValue code) pc word

/-- Fail with the fault that has a given number, if it is one that can be
    described. -/
def failValue (code pc word : Value) : Except Error Unit := do
  match ← ofValue code with
  | none => .ok ()
  | some f => do
    let _ ← describeWith (some f) pc word
    .error (.faulted f pc word)

end Fault

/-! ## Requests -/

/-- What a logger can be asked to do. -/
inductive LogRequest where
  /-- log a message at one of the five levels -/
  | message (level : LogLevel) (message : Value)
  /-- log a message at a level that may be any value -/
  | log (level message : Value)
  | romLoaded (source size : Value)
  | reset (seed : Value)
  | fault (code pc word action : Value)
  | summary (instructions frames time : Value)

/-- An ability of a logger: who has it, and its arguments by name, of which the last ones may
    be left out. -/
structure LogAbility where
  name : String
  owner : String
  arguments : List String
  optional : Nat := 0

namespace LogAbility

/-- The owner of what any logger can do. -/
def console : String := "ConsoleLogger"

/-- The owner of what only a logger for emulations can do. -/
def emulator : String := "EmulatorLogger"

/-- What loggers can do. -/
def all : List LogAbility :=
  [ ⟨"debug", console, ["message"], 0⟩, ⟨"info", console, ["message"], 0⟩,
    ⟨"warning", console, ["message"], 0⟩, ⟨"error", console, ["message"], 0⟩,
    ⟨"critical", console, ["message"], 0⟩, ⟨"log", console, ["level", "message"], 0⟩,
    ⟨"log_rom_loaded", emulator, ["source", "size"], 0⟩, ⟨"log_reset", emulator, ["seed"], 0⟩,
    ⟨"log_fault", emulator, ["fault", "pc", "instruction", "policy"], 0⟩,
    ⟨"log_run_summary", emulator, ["instructions", "frames", "elapsed"], 1⟩ ]

/-- Check the number of arguments; the owner counts as one. -/
def check (a : LogAbility) (given : Nat) : Except Error Unit :=
  let action := a.owner ++ "." ++ a.name ++ "()"
  let most := a.arguments.length
  let least := most - a.optional
  if given < least then
    .error (.call (.missing action ((a.arguments.take least).drop given)))
  else if most < given then .error (.call (.surplus action (least + 1) (most + 1) (given + 1)))
  else .ok ()

end LogAbility

/-- The kinds of what a logger has that is no ability. -/
def Logger.attributeKind? (l : Logger) (name : String) : Option Kind :=
  match name with
  | "name" | "log_level" => some .text
  | "use_colors" | "show_timestamps" => some .flag
  | "colors" | "level_order" => some .record
  | "start_time" => some l.startTime.kind
  | "fault_counts" => if l.emulation then some .record else none
  | _ => none

/-- The request that a name and its arguments make. -/
def LogRequest.ofCall (l : Logger) (name : String) (arguments : List Value) :
    Except Error LogRequest := do
  let owner := if l.emulation then LogAbility.emulator else LogAbility.console
  let known (a : LogAbility) : Bool :=
    a.name = name && (l.emulation || a.owner = LogAbility.console)
  match l.attributeKind? name, LogAbility.all.find? known with
  | some k, _ => throw (.kind (.action k))
  | none, none => throw (.kind (.lacks owner name))
  | none, some a => a.check arguments.length
  let argument (i : Nat) : Value := arguments.getD i .null
  let level? := LogLevel.all.find? fun level => level.name.toList = name.toList.map Char.toUpper
  match name, level? with
  | "log", _ => return .log (argument 0) (argument 1)
  | "log_rom_loaded", _ => return .romLoaded (argument 0) (argument 1)
  | "log_reset", _ => return .reset (argument 0)
  | "log_fault", _ => return .fault (argument 0) (argument 1) (argument 2) (argument 3)
  | "log_run_summary", _ => return .summary (argument 0) (argument 1) (argument 2)
  | _, level? => return .message (level?.getD .info) (argument 0)

namespace Logger

/-- Count and log the fault with a given number. -/
def logFaultValue (l : Logger) (code pc word action : Value) : Logger × Except Error Unit :=
  match Fault.ofValue code with
  | .error e => (l, .error e)
  | .ok none => (l, .error .notCounted)
  | .ok (some f) =>
    match Fault.describeWith (some f) pc word with
    | .error e => ({ l with counts := l.counts.count f }, .error e)
    | .ok description =>
      l.outcome (faultLevel action.shown) (l.logDescribed f description action.shown)

/-- Do what a request asks for. -/
def perform (l : Logger) : LogRequest → Logger × Except Error Unit
  | .message level m => l.outcome level (l.logAt level m.shown)
  | .log (.text level) m => l.outcome (severity level) (l.log level m.shown)
  | .log level _ => (l, .error (.noCapitals level))
  | .romLoaded source size => l.outcome .info (l.logRomLoaded source size)
  | .reset seed => l.outcome .info (l.logReset seed)
  | .fault code pc word action => l.logFaultValue code pc word action
  | .summary instructions frames time => l.logRunSummary instructions frames time

/-- Do what a name with its arguments asks for, if that is a request. -/
def call (l : Logger) (name : String) (arguments : List Value) : Logger × Except Error Unit :=
  match LogRequest.ofCall l name arguments with
  | .error e => (l, .error e)
  | .ok r => l.perform r

end Logger

end Chip8
