/-
  Hosts — configuration.

  Settings come as values of any kind; `HostConfig.ofSettings` checks them.
-/
import Chip8.Rom

namespace Chip8

/-- What a host does when a step faults. -/
inductive FaultPolicy where
  /-- stop until the next reset -/
  | halt
  /-- go on after the faulting word -/
  | skip
  /-- start the program again -/
  | reset
deriving DecidableEq

namespace FaultPolicy

/-- The name of a policy. -/
def name : FaultPolicy → String
  | halt => "halt"
  | skip => "skip"
  | reset => "reset"

/-- The policies. -/
def all : List FaultPolicy := [halt, skip, reset]

/-- The policy with a given name. -/
def ofName? (s : String) : Option FaultPolicy := all.find? (·.name == s)

theorem map_name_all : all.map name = Choice.faultPolicy.names := rfl

theorem ofName?_name (p : FaultPolicy) : ofName? p.name = some p := by
  cases p <;> rfl

end FaultPolicy

/-- Settings of a host as they are given. -/
structure HostSettings where
  instructionFrequency : Value := .int 700
  timerFrequency : Value := .int 60
  seed : Value := .int 0
  faultPolicy : Value := .text "halt"
  maxRomSize : Value := .int Rom.maxSize

namespace HostSettings

/-- Settings with one more field. -/
def set (s : HostSettings) (name : String) (v : Value) : Except Error HostSettings :=
  match name with
  | "instruction_frequency" => .ok { s with instructionFrequency := v }
  | "timer_frequency" => .ok { s with timerFrequency := v }
  | "seed" => .ok { s with seed := v }
  | "fault_policy" => .ok { s with faultPolicy := v }
  | "max_rom_size" => .ok { s with maxRomSize := v }
  | name => .error (.call (.unknown "HostConfig.__init__()" name))

/-- The settings in the fields of a record. -/
def ofValue : Value → Except Error HostSettings
  | .record fields => fields.foldlM (fun s (name, v) => s.set name v) {}
  | v => .error (.call (.unnamed "chip8core.host.HostConfig()" v.kind))

end HostSettings

/-- Settings of a host. -/
structure HostConfig where
  /-- the settings as they were given -/
  given : HostSettings
  /-- instructions per second -/
  instructionFrequency : Number
  /-- timer ticks, and frames, per second -/
  timerFrequency : Number
  /-- the seed of the random source, used again on every reset -/
  seed : Int
  policy : FaultPolicy
  instructionFrequency_pos : instructionFrequency.isNonpositive = false
  timerFrequency_pos : timerFrequency.isNonpositive = false

namespace HostConfig

/-- The policy that a value names. -/
def policyOf (v : Value) : Except Error FaultPolicy :=
  match v with
  | .text name =>
    match FaultPolicy.ofName? name with
    | some policy => .ok policy
    | none => .error (.unknownChoice .faultPolicy name)
  | v => .error (.unknownChoice .faultPolicy v.shown)

/-- A frequency that a value tells, which must be positive. -/
def frequencyOf (v : Value) : Except Error { n : Number // n.isNonpositive = false } := do
  let n ← v.compared "<="
  if h : n.isNonpositive = false then .ok ⟨n, h⟩ else .error .hostFrequency

/-- Check settings: first the policy, then the frequencies. -/
def ofSettings (s : HostSettings) : Except Error HostConfig := do
  let policy ← policyOf s.faultPolicy
  let ⟨instructionFrequency, instructionFrequency_pos⟩ ← frequencyOf s.instructionFrequency
  let ⟨timerFrequency, timerFrequency_pos⟩ ← frequencyOf s.timerFrequency
  .ok
    { given := s
      instructionFrequency
      timerFrequency
      seed := s.seed.integer?.getD 0
      policy
      instructionFrequency_pos
      timerFrequency_pos }

/-- The instructions in a frame, at least one, as they are computed. -/
def frameQuota (c : HostConfig) : Number :=
  let quota := c.instructionFrequency.ratio c.timerFrequency
  if (Number.int 1).lt quota then quota else .int 1

/-- The instructions in a frame. -/
def instructionsPerFrame (c : HostConfig) : Nat :=
  match c.frameQuota with
  | .int n => n.toNat
  | .real x => Number.stepsBelow x

theorem instructionsPerFrame_int (c : HostConfig) (f t : Nat)
    (hf : c.instructionFrequency = .int f) (ht : c.timerFrequency = .int t) :
    c.instructionsPerFrame = max 1 (f / t) := by
  have h : Number.ratio (.int f) (.int t) = .int ((f / t : Nat) : Int) := rfl
  by_cases h1 : (1 : Int) < (f / t : Nat)
  · rw [instructionsPerFrame, frameQuota, hf, ht, h, if_pos (Number.lt_int _ _ |>.2 h1)]
    show ((f / t : Nat) : Int).toNat = max 1 (f / t)
    rw [Int.toNat_natCast, Nat.max_eq_right (by omega)]
  · rw [instructionsPerFrame, frameQuota, hf, ht, h, if_neg (mt (Number.lt_int _ _).1 h1)]
    show (1 : Int).toNat = max 1 (f / t)
    rw [Nat.max_eq_left (by omega)]
    rfl

end HostConfig

end Chip8
