/-
  CHIP-8 machine — waiting for a key.

  A machine at `FX0A` with no key down is a fixpoint of the step: the fetch moves the program
  counter past the word and the instruction moves it back.  It is left through the keypad
  alone, which callers change by a `KeyRequest`, all of it or key by key.  Of any number of
  requests only the last that concerns a key counts for it (`lastEffect`).

  * `KeyRequest.effect`, `KeyRequest.Refused`: what a request does to a key, and which requests
    do nothing;
  * `Machine.perform_error_iff`: those are the requests that fail;
  * `Machine.requestAll_eq`: which keys are down after requests;
  * `Machine.takesLowest`: what a step at `FX0A` does;
  * `Machine.key_wait`: both for a machine that waits, and that without a request a run of
    any number of steps leaves it as it is.
-/
import Chip8.Proofs.Iteration
import Chip8.Proofs.ProgramImage
import Chip8.Proofs.Snapshot

namespace Chip8

/-! ## Requests to the keypad -/

/-- A number tells one key, a flag all keys or none. -/
def Value.tellsKey : Value → Nibble → Bool
  | .flag b, _ => b
  | .number (.int n), key => n = key.val
  | _, _ => false

theorem Value.flag_or_key {told : Value}
    (h : ¬ (told.kind ≠ .flag ∧ ∀ key, told.tellsKey key = false)) :
    (∃ b, told = .flag b) ∨ ∃ key : Nibble, told = .number (.int key.val) := by
  cases told with
  | flag b => exact .inl ⟨b, rfl⟩
  | number n =>
    cases n with
    | int n =>
      refine .inr (by_contra fun hnone => h ⟨nofun, fun key => decide_eq_false fun heq => ?_⟩)
      exact hnone ⟨key, by rw [heq]⟩
    | real x => exact absurd ⟨nofun, fun key => rfl⟩ h
  | null | text _ | list _ | tuple _ | record _ => exact absurd ⟨nofun, fun key => rfl⟩ h

/-- What callers ask of the keypad. -/
inductive KeyRequest where
  /-- another keypad in place of the present one -/
  | replace (snapshot : Value)
  | press (key : Value)
  | release (key : Value)
  | releaseAll

namespace KeyRequest

/-- Perform a request, or say why it is refused. -/
def perform (m : Machine) : KeyRequest → Except Error Machine
  | .replace snapshot => m.setKeypad snapshot
  | .press key => m.pressValue key
  | .release key => m.releaseValue key
  | .releaseAll => .ok m.releaseAll

/-- Whether a request leaves a key down or up, if it concerns the key. -/
def effect (key : Nibble) : KeyRequest → Option Bool
  | .replace snapshot => snapshot.keys?.map (· key)
  | .press told => if told.tellsKey key then some true else none
  | .release told => if told.tellsKey key then some false else none
  | .releaseAll => some false

/-- A request fails if it tells no key, or replaces the keypad by what is no snapshot. -/
def Refused : KeyRequest → Prop
  | .replace snapshot => snapshot.keys? = none
  | .press told | .release told => told.kind ≠ .flag ∧ ∀ key, told.tellsKey key = false
  | .releaseAll => False

/-- The last effect that requests have on a key. -/
def lastEffect (key : Nibble) (requests : List KeyRequest) : Option Bool :=
  (requests.filterMap (effect key)).getLast?

/-- A request counts for a key if no later one does. -/
theorem lastEffect_cons (key : Nibble) (r : KeyRequest) (requests : List KeyRequest) :
    lastEffect key (r :: requests) = (lastEffect key requests).or (r.effect key) := by
  unfold lastEffect
  rw [List.filterMap_cons]
  cases r.effect key with
  | none => exact Option.or_none.symm
  | some b =>
    show List.getLast? (b :: _) = _
    rw [List.getLast?_cons]
    cases (requests.filterMap (effect key)).getLast? with
    | none => rfl
    | some c => rfl

theorem getD_told (told down before : Bool) :
    (if told then some down else none).getD before = if told then down else before := by
  cases told with
  | false => rfl
  | true => rfl

end KeyRequest

namespace Keypad

theorem get_ofFlags (f : Nibble → Bool) (key : Nibble) : (ofFlags f).get key = f key :=
  Vector.getElem_ofFn key.isLt

theorem ofFlags_get (k : Keypad) : ofFlags k.get = k :=
  Vector.ext fun _ _ => Vector.getElem_ofFn _

theorem set_eq_ofFlags (k : Keypad) (i : Nibble) (down : Bool) :
    k.set i down i.isLt = ofFlags fun key => if i = key then down else k.get key := by
  refine Vector.ext fun key hkey => ?_
  rw [Vector.getElem_set, ofFlags, Vector.getElem_ofFn]
  exact if_congr (@Fin.ext_iff 16 i ⟨key, hkey⟩).symm rfl rfl

theorem released_eq_ofFlags : released = ofFlags fun _ => false := by
  refine Vector.ext fun key hkey => ?_
  rw [released, Vector.getElem_replicate, ofFlags, Vector.getElem_ofFn]

/-- The keys that are down are listed in increasing order. -/
theorem pairwise_pressed (k : Keypad) : k.pressed.Pairwise (· < ·) :=
  (List.pairwise_lt_finRange 16).filter _

end Keypad

namespace Machine

variable {m : Machine} {x : Nibble}

/-- A machine after a request, which changes nothing if it is refused. -/
def request (m : Machine) (r : KeyRequest) : Machine := (r.perform m).toOption.getD m

/-- A machine whose keys are down or up as given. -/
def withKeys (m : Machine) (keys : Nibble → Bool) : Machine := { m with keypad := .ofFlags keys }

theorem pc_withKeys (m : Machine) (keys : Nibble → Bool) : (m.withKeys keys).pc = m.pc := by
  unfold withKeys
  rfl

theorem word_withKeys (m : Machine) (keys : Nibble → Bool) : (m.withKeys keys).word = m.word := by
  unfold word withKeys
  rfl

theorem keypad_withKeys (m : Machine) (keys : Nibble → Bool) :
    (m.withKeys keys).keypad = .ofFlags keys := rfl

theorem withKeys_withKeys (m : Machine) (keys keys' : Nibble → Bool) :
    (m.withKeys keys).withKeys keys' = m.withKeys keys' := by
  unfold withKeys
  rfl

theorem withKeys_get (m : Machine) : m.withKeys m.keypad.get = m :=
  congrArg (fun keypad => { m with keypad }) m.keypad.ofFlags_get

/-- A machine after several requests. -/
def requestAll (m : Machine) (requests : List KeyRequest) : Machine := requests.foldl request m

theorem setKeypad_eq (m : Machine) (snapshot : Value) :
    (m.setKeypad snapshot).toOption = snapshot.keys?.map m.withKeys := by
  rw [setKeypad, toOption_bind, Keypad.ofSnapshot_eq, Option.bind_map]
  cases snapshot.keys? with
  | none => rfl
  | some keys => rfl

theorem setKeypad_flags (m : Machine) (keys : Nibble → Bool) :
    m.setKeypad (.list ((List.finRange 16).map fun key => .flag (keys key))) =
      .ok (m.withKeys keys) :=
  ok_of_toOption (by rw [setKeypad_eq, Value.keys?_flags, Option.map_some])

theorem setKeys_key (m : Machine) (key : Nibble) (down : Bool) :
    m.setKeys (.number (.int key.val)) down =
      .ok { m with keypad := m.keypad.set key down key.isLt } := by
  have hkey : 0 ≤ (key.val : ℤ) ∧ (key.val : ℤ) < 16 :=
    ⟨Int.natCast_nonneg _, Int.ofNat_lt.2 key.isLt⟩
  have hrange : ((Number.int 0).le (.int key.val) && (Number.int key.val).lt (.int Keypad.size)) =
      true := by
    rw [Bool.and_eq_true, Number.le_int, Number.lt_int]
    exact hkey
  have hfound : Keypad.key key.val = .ok key := dif_pos hkey
  unfold setKeys
  simp only [Value.number?, hrange]
  cases down
  · show m.releaseKey _ = _
    rw [releaseKey, hfound]
    rfl
  · show m.pressKey _ = _
    rw [pressKey, hfound]
    rfl

theorem setKeys_of_outside (m : Machine) {n : ℤ} (hn : ¬ (0 ≤ n ∧ n < 16)) (down : Bool) :
    ∃ e, m.setKeys (.number (.int n)) down = .error e := by
  have hrange : ((Number.int 0).le (.int n) && (Number.int n).lt (.int Keypad.size)) = false := by
    rw [← Bool.not_eq_true, Bool.and_eq_true, Number.le_int, Number.lt_int]
    exact hn
  unfold setKeys
  simp only [Value.number?, hrange]
  exact ⟨_, rfl⟩

theorem setKeys_real (m : Machine) (x : Float) (down : Bool) :
    ∃ e, m.setKeys (.number (.real x)) down = .error e := by
  unfold setKeys
  simp only [Value.number?]
  split_ifs
  · exact ⟨_, rfl⟩
  · exact ⟨_, rfl⟩

/-- Flags and the numbers of keys are taken, and nothing else. -/
theorem setKeys_error_iff (m : Machine) (told : Value) (down : Bool) :
    (∃ e, m.setKeys told down = .error e) ↔
      told.kind ≠ .flag ∧ ∀ key, told.tellsKey key = false := by
  cases told with
  | flag b =>
    refine iff_of_false ?_ fun h => h.1 rfl
    cases b with
    | false => rintro ⟨e, ⟨⟩⟩
    | true => rintro ⟨e, ⟨⟩⟩
  | number n =>
    cases n with
    | int n =>
      by_cases hn : 0 ≤ n ∧ n < 16
      · obtain ⟨i, rfl⟩ : ∃ i : Nibble, n = i.val := ⟨⟨n.toNat, by omega⟩, by simp; omega⟩
        rw [setKeys_key]
        refine iff_of_false ?_ fun h => absurd (h.2 i) (by simp [Value.tellsKey])
        rintro ⟨e, ⟨⟩⟩
      · refine iff_of_true (m.setKeys_of_outside hn down)
          ⟨Kind.noConfusion, fun key => decide_eq_false ?_⟩
        have := key.isLt
        omega
    | real x => exact iff_of_true (m.setKeys_real x down) ⟨Kind.noConfusion, fun key => rfl⟩
  | null | text _ | list _ | tuple _ | record _ =>
    exact iff_of_true ⟨_, rfl⟩ ⟨Kind.noConfusion, fun key => rfl⟩

/-- The keys that are told are set, and if that is refused, none is told. -/
theorem setKeys_eq (m : Machine) (told : Value) (down : Bool) :
    (m.setKeys told down).toOption.getD m =
      m.withKeys fun key => if told.tellsKey key then down else m.keypad.get key := by
  by_cases htold : told.kind ≠ .flag ∧ ∀ key, told.tellsKey key = false
  · obtain ⟨e, he⟩ := (m.setKeys_error_iff told down).2 htold
    simp only [htold.2, he]
    exact m.withKeys_get.symm
  · obtain ⟨b, rfl⟩ | ⟨i, rfl⟩ := told.flag_or_key htold
    · cases b with
      | false => exact m.withKeys_get.symm
      | true => rfl
    · rw [setKeys_key, Keypad.set_eq_ofFlags]
      simp only [Value.tellsKey, Nat.cast_inj, Fin.val_inj, decide_eq_true_eq]
      rfl

/-- **The requests that fail** are those that are refused. -/
theorem perform_error_iff (m : Machine) (r : KeyRequest) :
    (∃ e, r.perform m = .error e) ↔ r.Refused := by
  cases r with
  | replace snapshot =>
    have hread := m.setKeypad_eq snapshot
    show (∃ e, m.setKeypad snapshot = .error e) ↔ snapshot.keys? = none
    cases hset : m.setKeypad snapshot with
    | error e =>
      rw [hset] at hread
      exact iff_of_true ⟨e, rfl⟩ (Option.map_eq_none_iff.1 hread.symm)
    | ok m' =>
      rw [hset] at hread
      refine iff_of_false nofun fun hnone => ?_
      rw [hnone] at hread
      cases hread
  | press told => exact m.setKeys_error_iff told true
  | release told => exact m.setKeys_error_iff told false
  | releaseAll => exact iff_of_false nofun id

/-- **A request has its effect** on every key, and on nothing but the keypad. -/
theorem request_eq (m : Machine) (r : KeyRequest) :
    m.request r = m.withKeys fun key => (r.effect key).getD (m.keypad.get key) := by
  cases r with
  | replace snapshot =>
    rw [request, KeyRequest.perform, setKeypad_eq]
    simp only [KeyRequest.effect]
    cases snapshot.keys? with
    | none => exact m.withKeys_get.symm
    | some keys => rfl
  | press told =>
    refine (m.setKeys_eq told true).trans (congrArg m.withKeys (funext fun key => ?_))
    rw [KeyRequest.effect, KeyRequest.getD_told]
  | release told =>
    refine (m.setKeys_eq told false).trans (congrArg m.withKeys (funext fun key => ?_))
    rw [KeyRequest.effect, KeyRequest.getD_told]
  | releaseAll => exact congrArg (fun keypad => { m with keypad }) Keypad.released_eq_ofFlags

/-- **The last effect on each key counts**, and nothing but the keypad is changed. -/
theorem requestAll_eq (m : Machine) (requests : List KeyRequest) :
    m.requestAll requests =
      m.withKeys fun key => (KeyRequest.lastEffect key requests).getD (m.keypad.get key) := by
  induction requests generalizing m with
  | nil => exact m.withKeys_get.symm
  | cons r requests ih =>
    show (m.request r).requestAll requests = _
    rw [ih, request_eq, withKeys_withKeys]
    refine congrArg m.withKeys (funext fun key => ?_)
    rw [keypad_withKeys, Keypad.get_ofFlags, KeyRequest.lastEffect_cons]
    cases KeyRequest.lastEffect key requests with
    | none => rfl
    | some b => rfl

/-! ## The step that waits -/

/-- What a step at `FX0A` does. -/
structure TakesLowest (m : Machine) (x : Nibble) : Prop where
  /-- the lowest of the keys that are down goes to `VX` -/
  takes : ∀ key rest, m.keypad.pressed = key :: rest →
    m.step = ⟨{ m with registers := m.registers.put x (.ofNat key), pc := m.pc + 2 },
      none, m.word, false⟩
  /-- and if no key is down, everything is as it was -/
  waits : m.keypad.pressed = [] → m.step = ⟨m, none, m.word, false⟩

theorem takesLowest (hpc : m.pc.toNat + 1 < 4096)
    (hword : m.word.toNat = (Instruction.waitKey x).encode) : m.TakesLowest x := by
  have hstep := step_of_encode hpc hword (by unfold Instruction.fault?; rfl)
  have hlowest := m.keypad.lowest?_eq_head?
  rw [apply_waitKey] at hstep
  refine ⟨?_, ?_⟩
  · intro key rest hpressed
    rw [hpressed] at hlowest
    rw [hstep]
    simp only [advancePc, hlowest]
    rfl
  · intro hpressed
    rw [hpressed] at hlowest
    rw [hstep]
    simp only [advancePc, hlowest]
    show StepResult.mk { m with pc := m.pc + 2 - 2 } none m.word false = _
    rw [UInt16.add_sub_cancel]

/-- A run from a fixpoint of the step stays there. -/
theorem run_of_step_eq {w : UInt16} (h : m.step = ⟨m, none, w, false⟩) (n : ℕ) :
    m.run n = ⟨m, none, n, false⟩ := by
  induction n with
  | zero => rfl
  | succ n ih =>
    rw [run_succ_of_ok (by rw [h]), h]
    show (RunResult.ofStep ⟨m, none, w, false⟩).append (m.run n) = _
    rw [ih, RunResult.append, RunResult.ofStep, Nat.add_comm n]
    rfl

/-- **A machine that waits for a key**, at `FX0A` with no key down, is left as it is by any
    number of steps, in one run of up to 2³¹ - 1.  Requests change its keypad alone, and the keys
    listed then, in increasing order, are those that the last effect left down.  A step puts the
    first of them into `VX` and goes past the word, and if there is none, it changes nothing.
    A request that is refused has no effect, and sixteen flags are never refused. -/
theorem key_wait (hpc : m.pc.toNat + 1 < 4096)
    (hword : m.word.toNat = (Instruction.waitKey x).encode) (hup : m.keypad.pressed = []) :
    (∀ n : ℤ, 0 ≤ n → n < 2 ^ 31 → m.runInt n = .ok ⟨m, none, n.toNat, false⟩) ∧
      (∀ n : ℤ, 2 ^ 31 ≤ n → m.runInt n = .error (.stepsOverflow n)) ∧
      (∀ requests : List KeyRequest,
        m.requestAll requests = { m with keypad := (m.requestAll requests).keypad } ∧
        (m.requestAll requests).keypad.pressed.Pairwise (· < ·) ∧
        (∀ key, key ∈ (m.requestAll requests).keypad.pressed ↔
          KeyRequest.lastEffect key requests = some true) ∧
        (m.requestAll requests).TakesLowest x) ∧
      (∀ (m' : Machine) (r : KeyRequest), (∃ e, r.perform m' = .error e) ↔ r.Refused) ∧
      ∀ (m' : Machine) (keys : Nibble → Bool),
        KeyRequest.perform m' (.replace (.list ((List.finRange 16).map fun key =>
          .flag (keys key)))) = .ok (m'.withKeys keys) := by
  have hwaits := (takesLowest hpc hword).waits hup
  refine ⟨?_, ?_, ?_, perform_error_iff, setKeypad_flags⟩
  · intro n hlo hhi
    rw [runInt_eq (by omega) hhi, run_of_step_eq hwaits]
  · intro n hlarge
    exact if_neg fun h => absurd ((IntegerType.holds_signed 32 n).1 h).2 (not_lt.2 hlarge)
  · intro requests
    rw [requestAll_eq]
    refine ⟨rfl, Keypad.pairwise_pressed _, fun key => ?_, takesLowest ?_ ?_⟩
    · have hkey : m.keypad.get key = false := by
        rw [← Bool.not_eq_true, ← Keypad.mem_pressed, hup]
        exact List.not_mem_nil
      rw [Keypad.mem_pressed, keypad_withKeys, Keypad.get_ofFlags, hkey]
      cases KeyRequest.lastEffect key requests with
      | none => simp
      | some b => simp
    · rw [pc_withKeys]
      exact hpc
    · rw [word_withKeys]
      exact hword

/-- A program of one word, `F50A`, waits at its start. -/
theorem waits_of_boot :
    ∃ m, boot 0 (Rom.ofWords [0xF50A]) .null = .ok m ∧ m.pc.toNat + 1 < 4096 ∧
      m.word.toNat = (Instruction.waitKey 5).encode ∧ m.keypad = .released := by
  have hholds : (powerOn (.ofSeed 0)).HoldsRom (Rom.ofWords [0xF50A]) _ :=
    holdsRom_withRom _ (by decide)
  have hfetch := hholds.fetch (by decide) (k := 0) (by decide) rfl (by decide)
  have hword : ((powerOn (.ofSeed 0)).withRom (Rom.ofWords [0xF50A])).word = 0xF50A :=
    (Prod.mk.inj hfetch.2.1).1
  exact ⟨_, rfl, by decide, by rw [hword]; rfl, rfl⟩

/-- 2³¹ steps are too many for one run. -/
theorem key_wait_refused :
    ∃ m, boot 0 (Rom.ofWords [0xF50A]) .null = .ok m ∧ m.pc.toNat + 1 < 4096 ∧
      m.word.toNat = (Instruction.waitKey 5).encode ∧ m.keypad.pressed = [] ∧
      m.runInt (2 ^ 31) = .error (.stepsOverflow (2 ^ 31)) := by
  obtain ⟨m, hboot, hpc, hword, hkeypad⟩ := waits_of_boot
  exact ⟨m, hboot, hpc, hword, by rw [hkeypad]; rfl, rfl⟩

/-- `F50A` waits for a million steps.  Then a snapshot shows two keys down, of which one is
    released again and a third one is pressed; a key that does not exist and a snapshot of two
    entries are refused.  The lower of the two keys that are left goes to `V5`. -/
theorem key_wait_nine :
    ∃ m, boot 0 (Rom.ofWords [0xF50A]) .null = .ok m ∧
      m.runInt 1000000 = .ok ⟨m, none, 1000000, false⟩ ∧
      (m.requestAll [.press (.int 0),
        .replace (.list [.int 0, .int 0, .int 0, .int 7, .int 0, .int 0, .int 0, .int 0, .int 0,
          .int (-1), .flag false, .int 0, .int 0, .int 0, .int 0, .int 0]),
        .press (.int 12), .release (.int 3), .press (.int 16),
        .replace (.tuple [.int 0, .flag true])]).step.machine.registers.get 5 = 9 := by
  obtain ⟨m, hboot, hpc, hword, hkeypad⟩ := waits_of_boot
  obtain ⟨hrun, -, hrequests, -⟩ := key_wait hpc hword (by rw [hkeypad]; rfl)
  refine ⟨m, hboot, hrun 1000000 (by decide) (by decide), ?_⟩
  rw [(hrequests _).2.2.2.takes 9 [12]]
  · exact Vector.getElem_set_self _
  · rw [requestAll_eq, keypad_withKeys, hkeypad]
    decide

end Machine

end Chip8
