/-
  Random bytes — one stream for every seed.

  A draw splits the key of the random source, keeps one half for later draws and takes a
  number below 256 from the other.  Which keys and which bytes there are depends on the
  seed alone, and programs only move along them, byte by byte.

  * `Key.split`, `Key.bits`, `Key.below`: two keys from one, random bits and a number below
    a bound, with `Key.next_eq` and `Key.toUInt32_byte` for what a draw makes of them;
  * `Stream`: the keys and the bytes that a key leads to;
  * `History.bytesTaken`: how many bytes were drawn since the machine was started;
  * `Session.rng_performAll`: the machine holds the key at this place of the stream;
  * `Machine.bytes_transcript`: the bytes drawn are a stretch of the stream;
  * `random_stream_of_seed`: both for machines and for hosts, whatever is done to them.
-/
import Chip8.Proofs.HostTrace
import Chip8.Proofs.Replay

namespace Chip8

/-! ## Keys -/

namespace Key

/-- Two keys from one. -/
def split (k : Key) : Key × Key := (k.encipher ⟨0, 0⟩, k.encipher ⟨0, 1⟩)

/-- 32 random bits. -/
def bits (k : Key) : UInt32 := (k.encipher ⟨0, 0⟩).hi ^^^ (k.encipher ⟨0, 0⟩).lo

/-- A random number below `span`, for which 64 random bits are used: the number they write
    is divided by `span` word by word. -/
def below (k : Key) (span : UInt32) : UInt32 :=
  let half := 0x10000 % span
  (k.split.1.bits % span * (half * half % span) + k.split.2.bits % span) % span

/-- The key left for later draws is the first of a split. -/
theorem next_eq (k : Key) : k.next = k.split.1 := rfl

/-- The byte drawn is a number below 256 under the second key of a split.  Of the 64 random
    bits the higher ones do not matter. -/
theorem toUInt32_byte (k : Key) : k.byte.toUInt32 = k.split.2.below 256 := by
  have hhalf : (0x10000 % 256 * (0x10000 % 256) % 256 : UInt32) = 0 := by decide
  have hlow : ∀ w : UInt32, w % 256 % 256 = w % 256 := by
    intro w
    rw [← UInt32.toNat_inj, UInt32.toNat_mod, UInt32.toNat_mod, Nat.mod_mod]
  show (k.split.2.split.2.bits.toUInt8).toUInt32 = _
  simp only [below]
  rw [hhalf, UInt32.mul_zero, UInt32.zero_add, hlow, UInt32.toUInt32_toUInt8]

end Key

/-- **The keys and the bytes that a key leads to**: every draw splits the key. -/
structure Stream (key : Key) (k : ℕ → Key) (b : ℕ → UInt8) : Prop where
  start : k 0 = key
  next : ∀ j, k (j + 1) = (k j).split.1
  byte : ∀ j, (b j).toUInt32 = (k j).split.2.below 256

namespace Stream

variable {key : Key} {k : ℕ → Key} {b : ℕ → UInt8}

/-- There is such a stream for every key. -/
theorem iterate (key : Key) :
    Stream key (fun j => Key.next^[j] key) (fun j => (Key.next^[j] key).byte) where
  start := rfl
  next j := by rw [Function.iterate_succ_apply', Key.next_eq]
  byte _ := Key.toUInt32_byte _

theorem key_eq (hs : Stream key k b) (j : ℕ) : k j = Key.next^[j] key := by
  induction j with
  | zero => exact hs.start
  | succ j ih => rw [hs.next, ih, Function.iterate_succ_apply', Key.next_eq]

theorem byte_eq (hs : Stream key k b) (j : ℕ) : b j = (k j).byte := by
  have hwide : (b j).toUInt32 = (k j).byte.toUInt32 := by rw [hs.byte, Key.toUInt32_byte]
  rw [← UInt8.toNat_inj, ← UInt8.toNat_toUInt32, hwide, UInt8.toNat_toUInt32]

end Stream

/-! ## Draws -/

/-- Whether an instruction draws a random byte. -/
def Instruction.takesByte : Instruction → Bool
  | random .. => true
  | _ => false

/-- How many random bytes were drawn. -/
def History.bytesTaken (h : History) : ℕ := h.countP (·.instruction.takesByte)

/-- The random bytes seen. -/
def Seen.bytes (seen : List Seen) : List UInt8 := seen.filterMap (·.drawn)

theorem History.bytesTaken_append (h h' : History) :
    bytesTaken (h ++ h') = h.bytesTaken + h'.bytesTaken := List.countP_append

namespace Machine

variable {m : Machine}

/-- Either a byte is drawn, which moves the random source on, or none is and it stays. -/
theorem rng_step_cases (m : Machine) :
    (m.executed.bytesTaken = 1 ∧ m.drawn = some m.rng.byte ∧ m.step.machine.rng = m.rng.next) ∨
      m.executed.bytesTaken = 0 ∧ m.drawn = none ∧ m.step.machine.rng = m.rng := by
  rcases m.next_cases with ⟨i, hi⟩ | ⟨f, hf⟩
  · rw [step_of_ok hi, executed_of_ok hi, drawn, hi]
    have hrng := m.advancePc.apply_rng i
    cases i with
    | random x kk => exact Or.inl ⟨rfl, rfl, hrng⟩
    | _ => exact Or.inr ⟨rfl, rfl, hrng⟩
  · rw [step_of_error hf, executed_of_error hf, drawn, hf]
    exact Or.inr ⟨rfl, rfl, rfl⟩

theorem rng_step (m : Machine) : m.step.machine.rng = Key.next^[m.executed.bytesTaken] m.rng := by
  rcases m.rng_step_cases with ⟨htaken, -, hrng⟩ | ⟨htaken, -, hrng⟩
  · rw [htaken, hrng, Function.iterate_one]
  · rw [htaken, hrng, Function.iterate_zero_apply]

/-- A step that draws puts the byte, masked, into a register. -/
theorem step_of_random {x : Nibble} {kk : UInt8} (h : m.next = .ok (.random x kk)) :
    m.step.machine =
      { m with
        pc := m.pc + 2
        registers := m.registers.put x (m.rng.byte &&& kk)
        rng := m.rng.next } := by
  rw [step_of_ok h]
  rfl

theorem rng_step_of_ne (h : ∀ x kk, m.next ≠ .ok (.random x kk)) : m.step.machine.rng = m.rng := by
  rcases m.next_cases with ⟨i, hi⟩ | ⟨f, hf⟩
  · have hrng := m.advancePc.apply_rng i
    rw [step_of_ok hi]
    cases i with
    | random x kk => exact absurd hi (h x kk)
    | _ => exact hrng
  · rw [step_of_error hf]

end Machine

/-- **The key is the one that so many draws lead to**, from the key of the creation. -/
theorem Session.rng_performAll {s : Session}
    (hs : s.machine.rng = Key.next^[s.history.bytesTaken] s.machine.seedKey)
    (ops : List Operation) :
    (s.performAll ops).machine.rng =
      Key.next^[(s.performAll ops).history.bytesTaken] (s.performAll ops).machine.seedKey := by
  refine Session.performAll_induction
    (P := fun m h => m.rng = Key.next^[h.bytesTaken] m.seedKey) ?_ ?_ ?_ ?_ ?_ ops hs
  · exact fun key rom => rfl
  · intro m h hm
    rw [m.rng_step, hm, m.step_seedKey, History.bytesTaken_append, Nat.add_comm,
      Function.iterate_add_apply]
  · intro m h s hm
    rw [Machine.receive_eq]
    exact hm
  · exact fun m h rom hm => hm
  · intro m h hm
    unfold Machine.skipWord
    split_ifs
    · exact hm
    · exact hm

/-! ## The bytes that are seen -/

namespace Machine

variable {key : Key} {k : ℕ → Key} {b : ℕ → UInt8} {m : Machine} {j : ℕ}

theorem bytes_seenAt (hs : Stream key k b) (hm : m.rng = k j) :
    Seen.bytes [m.seenAt] = (List.range' j m.executed.bytesTaken).map b ∧
      m.step.machine.rng = k (j + m.executed.bytesTaken) := by
  rcases m.rng_step_cases with ⟨htaken, hdrawn, hrng⟩ | ⟨htaken, hdrawn, hrng⟩
  · rw [htaken, hrng, hm, hs.next, Key.next_eq]
    refine ⟨?_, rfl⟩
    simp [Seen.bytes, seenAt, hdrawn, hm, hs.byte_eq]
  · rw [htaken, hrng, hm]
    refine ⟨?_, rfl⟩
    simp [Seen.bytes, seenAt, hdrawn]

/-- Two stretches of a stream, one after the other. -/
theorem bytes_append {seen seen' : List Seen} {n n' : ℕ}
    (h : Seen.bytes seen = (List.range' j n).map b)
    (h' : Seen.bytes seen' = (List.range' (j + n) n').map b) :
    Seen.bytes (seen ++ seen') = (List.range' j (n + n')).map b := by
  have hfirst : Seen.bytes (seen ++ seen') = Seen.bytes seen ++ Seen.bytes seen' :=
    List.filterMap_append
  rw [hfirst, h, h', ← List.map_append, List.range'_append_1]

theorem bytes_seenIn (hs : Stream key k b) (hm : m.rng = k j) (n : ℕ) :
    Seen.bytes (m.seenIn n) = (List.range' j (m.trail n).bytesTaken).map b ∧
      (m.after n).rng = k (j + (m.trail n).bytesTaken) := by
  induction n generalizing m j with
  | zero => exact ⟨rfl, hm⟩
  | succ n ih =>
    obtain ⟨hbytes, hrng⟩ := bytes_seenAt hs hm
    obtain ⟨hrest, hafter⟩ := ih hrng
    rw [trail, after, History.bytesTaken_append]
    refine ⟨?_, by rw [hafter, Nat.add_assoc]⟩
    cases hfault : m.step.fault with
    | none =>
      rw [seenIn, hfault]
      exact bytes_append hbytes hrest
    | some f =>
      -- the run ends here, and nothing more is performed
      have hstep := step_of_error (step_fault_eq_some_iff.1 hfault)
      have htrail : m.step.machine.trail n = [] := by rw [hstep, trail_of_fault hfault]
      rw [seenIn, hfault, htrail]
      exact hbytes

theorem bytes_seenOf (hs : Stream key k b) (hm : m.rng = k j) {o : Operation}
    (ho : o.restarts = false) :
    Seen.bytes (m.seenOf o) = (List.range' j (m.executedBy o).bytesTaken).map b ∧
      (m.perform o).rng = k (j + (m.executedBy o).bytesTaken) := by
  constructor
  · cases o with
    | step => exact (bytes_seenAt hs hm).1
    | run n =>
      simp only [seenOf, executedBy]
      split_ifs
      · exact (bytes_seenIn hs hm n.toNat).1
      · rfl
    | _ => rfl
  · rcases m.perform_cases ho with
      ⟨n, hmachine, hexecuted⟩ | ⟨hexecuted, ⟨s, rfl⟩ | ⟨memory, pc, hmachine⟩⟩
    · rw [hmachine, hexecuted]
      exact (bytes_seenIn hs hm n).2
    · have hrng : (m.receive s).rng = m.rng := by rw [receive_eq]
      exact hrng.trans hm
    · rw [hmachine, hexecuted]
      exact hm

/-- **The bytes drawn are a stretch of the stream**, as long as the machine is not started
    anew. -/
theorem bytes_transcript (hs : Stream key k b) (hm : m.rng = k j) {ops : List Operation}
    (hops : ops.any Operation.restarts = false) :
    Seen.bytes (m.transcript ops) = (List.range' j (m.performed ops).bytesTaken).map b := by
  induction ops generalizing m j with
  | nil => rfl
  | cons o ops ih =>
    rw [List.any_cons, Bool.or_eq_false_iff] at hops
    obtain ⟨hbytes, hrng⟩ := bytes_seenOf hs hm hops.1
    rw [transcript, performed, History.bytesTaken_append]
    exact bytes_append hbytes (ih hrng hops.2)

end Machine

/-! ## One stream for every seed -/

/-- **A session on a stream**: how many bytes were drawn since the machine was started says
    which key it holds and which byte is next. -/
structure Session.OnStream (k : ℕ → Key) (b : ℕ → UInt8) (s : Session) : Prop where
  rng : s.machine.rng = k s.history.bytesTaken
  random : ∀ x kk, s.machine.next = .ok (.random x kk) →
    s.machine.step.machine =
      { s.machine with
        pc := s.machine.pc + 2
        registers := s.machine.registers.put x (b s.history.bytesTaken &&& kk)
        rng := k (s.history.bytesTaken + 1) }
  /-- a step that draws nothing, or faults, leaves the key -/
  other : (∀ x kk, s.machine.next ≠ .ok (.random x kk)) →
    s.machine.step.machine.rng = s.machine.rng
  /-- the bytes drawn from here on, until the machine is started anew -/
  bytes : ∀ ops : List Operation, ops.any Operation.restarts = false →
    Seen.bytes (s.machine.transcript ops) =
      (List.range' s.history.bytesTaken (s.machine.performed ops).bytesTaken).map b

/-- Whatever is done to a machine that has just been started, it stays on the stream of its
    key. -/
theorem Session.onStream_performAll {key : Key} {k : ℕ → Key} {b : ℕ → UInt8}
    (hs : Stream key k b) {m : Machine} (hrng : m.rng = key) (hkey : m.seedKey = key)
    {ops : List Operation}
    (hops : ∀ config rom, .restart config rom ∈ ops → .ofSeed config.seed = key) :
    ((Session.start m).performAll ops).OnStream k b := by
  have hstart : (Session.start m).machine.rng =
      Key.next^[(Session.start m).history.bytesTaken] (Session.start m).machine.seedKey :=
    hrng.trans hkey.symm
  have hmachine : ((Session.start m).performAll ops).machine.seedKey = key := by
    rw [machine_performAll]
    exact Machine.performAll_seedKey hkey hops
  have hkept := rng_performAll hstart ops
  rw [hmachine, ← hs.key_eq] at hkept
  exact
    { rng := hkept
      random := fun x kk hnext => by
        rw [Machine.step_of_random hnext, hkept, hs.byte_eq, hs.next, Key.next_eq]
      other := Machine.rng_step_of_ne
      bytes := fun ops hops => Machine.bytes_transcript hs hkept hops }

/-- **One stream of random bytes for every seed.**  From the key of the seed come keys and
    bytes, by splitting and drawing, and whatever program is loaded and whatever is done to
    the machine, or asked of a host: after `j` draws since the machine was started it holds
    key `j`, and the next draw puts byte `j`, masked, into its register.  Nothing else moves
    the random source, a fault least of all.  The states within a run or a batch are among
    these, since both are operations one after the other. -/
theorem random_stream_of_seed (seed : ℤ) :
    ∃ k b, Stream (.ofSeed seed) k b ∧
      (∀ rom max start, Machine.boot seed rom max = .ok start →
        ∀ ops, (∀ config rom, .restart config rom ∈ ops → config.seed = seed) →
          ((Session.start start).performAll ops).OnStream k b) ∧
      ∀ config rom logger name start, config.seed = seed →
        Host.create config rom logger name = .ok start →
          ∀ requests,
            let s := (Session.start start.machine).performAll (start.operationsAll requests)
            s.machine = (start.performAll requests).machine ∧ s.OnStream k b := by
  have hs := Stream.iterate (.ofSeed seed)
  refine ⟨_, _, hs, ?_, ?_⟩
  · intro rom max start hstart ops hops
    rw [Machine.boot_eq hstart]
    exact Session.onStream_performAll hs rfl rfl
      fun config rom hmem => congrArg Key.ofSeed (hops config rom hmem)
  · intro config rom logger name start hseed hstart requests
    have hown := (start.through_performAll requests).own
    refine ⟨by rw [Session.machine_performAll, Host.machine_performAll]; rfl, ?_⟩
    rw [Host.create_eq hstart] at hown ⊢
    subst hseed
    exact Session.onStream_performAll hs rfl rfl
      fun config' rom' hmem => congrArg (Key.ofSeed ·.seed) (hown config' rom' hmem).1

/-- Two draws, by steps with a timer tick in between and by a batch on a host. -/
theorem random_stream_of_seed_twice :
    ∃ k b, Stream (.ofSeed 7) k b ∧
      (∃ start, Machine.boot 7 [0xC0, 0xFF, 0xC1, 0xFF] (.int 3584) = .ok start ∧
        ((Session.start start).performAll [.step, .stimulus .tick, .run 1]).machine.rng = k 2) ∧
      ∃ config logger start, HostConfig.ofSettings { seed := .int 7 } = .ok config ∧
        Logger.ofSettings {} .null = .ok logger ∧
        Host.create config [0xC0, 0xFF, 0xC1, 0xFF] logger .null = .ok start ∧
        (start.performAll [.run (.int 2)]).machine.rng = k 2 := by
  obtain ⟨k, b, hs, hmachine, hhost⟩ := random_stream_of_seed 7
  refine ⟨k, b, hs, ?_, ?_⟩
  · have hboot : Machine.boot 7 [0xC0, 0xFF, 0xC1, 0xFF] (.int 3584) =
        .ok ((Machine.powerOn (.ofSeed 7)).withRom _) := rfl
    have htaken : ((Session.start ((Machine.powerOn (.ofSeed 7)).withRom
        [0xC0, 0xFF, 0xC1, 0xFF])).performAll
          [.step, .stimulus .tick, .run 1]).history.bytesTaken = 2 := by decide +kernel
    refine ⟨_, hboot, ?_⟩
    rw [← htaken]
    exact (hmachine _ _ _ hboot _ (by simp)).rng
  · obtain ⟨config, logger, start, hconfig, hseed, hlogger, hstart, htaken⟩ :
        ∃ config logger start, HostConfig.ofSettings { seed := .int 7 } = .ok config ∧
          config.seed = 7 ∧ Logger.ofSettings {} .null = .ok logger ∧
          Host.create config [0xC0, 0xFF, 0xC1, 0xFF] logger .null = .ok start ∧
          ((Session.start start.machine).performAll
            (start.operationsAll [.run (.int 2)])).history.bytesTaken = 2 :=
      ⟨_, _, _, rfl, rfl, rfl, rfl, by decide +kernel⟩
    obtain ⟨hsame, honstream⟩ := hhost _ _ _ _ _ hseed hstart [.run (.int 2)]
    refine ⟨config, logger, start, hconfig, hlogger, hstart, ?_⟩
    rw [← hsame, honstream.rng, htaken]

end Chip8
