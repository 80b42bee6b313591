/-
  The program — running without a window.

  A program is loaded, frames are run until the host is halted or there are as many as were
  asked for, and the result is reported.

  * `Options.runHeadless`: the frames and their report, once the program is loaded;
  * `gives_load`, `gives_play`, `gives_runHeadless`: what the parts of a run come to;
  * `headless_run`: the frames that are run, the displays that are kept, the image, the video
    and the exit code;
  * `headless_refused`: what cannot be counted is refused before the first frame.
-/
import Chip8.Proofs.FrameLoop
import Chip8.Proofs.Reporting
import Mathlib

namespace Chip8

/-- A program is not larger than the limit that is configured. -/
def HostConfig.Admits (config : HostConfig) (rom : Rom) : Prop :=
  ∃ limit, Rom.limit config.given.maxRomSize = .ok limit ∧ Rom.exceeds rom.length limit = false

theorem HostConfig.admits_iff {config : HostConfig} {max : ℤ}
    (hmax : config.given.maxRomSize = .int max) (rom : Rom) :
    config.Admits rom ↔ rom.length ≤ min max 3584 := by
  have hexceeds : Rom.exceeds rom.length (.int (min max 3584)) = false ↔
      rom.length ≤ min max 3584 := by
    rw [← Bool.not_eq_true, Rom.exceeds_int, not_lt]
  rw [Admits, hmax, Rom.limit_int, ← hexceeds]
  constructor
  · rintro ⟨limit, ⟨⟩, hfits⟩
    exact hfits
  · intro hfits
    exact ⟨_, rfl, hfits⟩

namespace Host

/-- A host keeps the clock of its logger. -/
theorem kept_still : Kept fun h => h.logger.Still where
  attempt := by
    intro h hl _
    cases hs : h.machine.step.fault with
    | none =>
      rw [attempt_of_ok hs]
      exact hl
    | some f =>
      have hnoted : ∀ p, (h.noted f p).logger.Still := fun _ => hl.logFault _ _ _ _
      rw [attempt_of_fault hs]
      rcases h.faulted_cases f with ⟨-, -, heq⟩ | ⟨-, -, heq⟩ | ⟨-, heq⟩
      · rw [heq]
        exact hnoted .halt
      · rw [heq]
        exact hnoted .skip
      · rw [heq]
        exact (hnoted .reset).log _ _
  receive := fun hl _ => hl
  pend := fun hl _ _ => hl
  countFrames := fun hl _ _ => hl

theorem still_afterFrames {h : Host} (hl : h.logger.Still) (m : ℕ) :
    (h.afterFrames m).logger.Still := by
  induction m generalizing h with
  | zero => exact hl
  | succ m ih => exact ih (kept_still.performAll hl [.frame] (by simp))

/-- A host can be made for a program that is not too large, unless the seed is. -/
theorem exists_create {config : HostConfig} {rom : Rom} (logger : Logger) (name : Value)
    (hseed : IntegerType.int64.holds config.seed = true) (hrom : config.Admits rom) :
    ∃ h, create config rom logger name = .ok h := by
  have hmachine : Machine.ofSeed config.seed = .ok (.powerOn (.ofSeed config.seed)) :=
    if_pos hseed
  have hload : (Machine.powerOn (.ofSeed config.seed)).loadRom rom config.given.maxRomSize =
      .ok ((Machine.powerOn (.ofSeed config.seed)).withRom rom) := by
    obtain ⟨limit, hlimit, hfits⟩ := hrom
    rw [Machine.loadRom, hlimit]
    show (if Rom.exceeds rom.length limit then _ else _) = _
    rw [hfits]
    rfl
  cases hcreate : create config rom logger name with
  | ok h => exact ⟨h, rfl⟩
  | error e =>
    unfold create at hcreate
    rw [hmachine] at hcreate
    change (Machine.loadRom _ rom config.given.maxRomSize >>= _) = _ at hcreate
    rw [hload] at hcreate
    cases hcreate

end Host

namespace Options

/-- Run the frames and report them: what is done once the program was loaded. -/
def runHeadless [Storage.Room] (o : Options) (create : String → Except Error Location) (h : Host)
    (elapsed : Number) : Reporting (Host × List Display) := do
  let (h, film) ← o.play h
  o.report create h film elapsed
  return (h, film)

theorem headless_eq [Storage.Room] (o : Options) (files : FileTree) :
    o.headless files = do
      match ← o.load (files.read o.rom) with
      | none => return 1
      | some h =>
        let (h, _) ← o.runHeadless files.create h (.int 0)
        return if h.halted then 1 else 0 := by
  refine congrArg (o.load (files.read o.rom) >>= ·) (funext fun loaded => ?_)
  cases loaded with
  | none => rfl
  | some h => simp only [runHeadless, bind_assoc, pure_bind]

section
variable {o : Options} {create : String → Except Error Location} {n s : ℤ}
  {c : ColorScheme} {r : Report}

theorem gives_load {config : HostConfig} {rom : Rom} {start : Host}
    (hconfig : o.hostConfig = .ok config)
    (hcreate : Host.create config rom r.logger (.text o.rom) = .ok start) :
    r.Gives (o.load (.ok rom)) (some start) { r with logger := start.logger } := by
  have hread : (do Host.create config (← Except.ok rom) r.logger (.text o.rom)) = .ok start :=
    hcreate
  unfold load
  refine (Report.gives_take hconfig).bind ?_
  refine Report.Gives.bind (a := r) rfl ?_
  simp only [hread]
  exact (Report.gives_modify r _).bind (Report.gives_pure _ _)

variable [Storage.Room]

/-- **The frames of a run**: the displays after them are kept. -/
theorem gives_play (ho : o.Feasible create n s c) {start : Host} {m : ℕ}
    (hq : 0 < n → start.config.instructionsPerFrame < 2 ^ 31)
    (hm : (m : ℕ∞) = min ↑n.toNat start.haltFrame) :
    r.Gives (o.play start) (start.afterFrames m, start.displays m)
      { r with logger := (start.afterFrames m).logger } := by
  have hcounted : (!o.noProgress && decide (0x8000000000000000 ≤ n)) = false := by
    rcases ho.counted with hquiet | hlt
    · rw [hquiet]
      rfl
    · rw [decide_eq_false (by omega), Bool.and_false]
  have hseed : o.checkSeed start n = .ok () := by
    obtain ⟨seed, hseed⟩ := ho.seed
    rw [checkSeed, hseed]
  have hrun := Host.runFrames_eq (fun hn => hq (by omega)) hm
  unfold play
  refine (Report.gives_take (a := n) (by rw [ho.frames]; rfl)).bind ?_
  simp only [hcounted, hrun]
  refine (Report.gives_take hseed).bind ?_
  refine (Report.gives_modify r _).bind ?_
  exact (Report.gives_take rfl).bind (Report.gives_pure _ _)

/-- The frames of a run and its report, which may have taken any time that can be logged. -/
theorem gives_runHeadless (ho : o.Feasible create n s c) {start : Host} {m : ℕ}
    (hq : 0 < n → start.config.instructionsPerFrame < 2 ^ 31)
    (hm : (m : ℕ∞) = min ↑n.toNat start.haltFrame) (logger : Logger) {elapsed : Number}
    (hsummary : ((start.afterFrames m).logger.logRunSummary
      (.int (start.afterFrames m).instructionCount) (.int (start.afterFrames m).frameCount)
      (.number elapsed)).2 = .ok ()) :
    ∃ last, Report.Gives { logger } (o.runHeadless create start elapsed)
      (start.afterFrames m, start.displays m)
      ⟨last, o.imageOf create s c (start.afterFrames m).machine.display,
        o.videoOf s c (start.displays m)⟩ := by
  obtain ⟨last, hreport⟩ : ∃ last, Report.Gives { logger := (start.afterFrames m).logger }
      (o.report create (start.afterFrames m) (start.displays m) elapsed) ()
      ⟨last, o.imageOf create s c (start.afterFrames m).machine.display,
        o.videoOf s c (start.displays m)⟩ :=
    gives_report ho hsummary rfl rfl
  exact ⟨last, (gives_play ho hq hm).bind (hreport.bind (Report.gives_pure _ _))⟩

theorem gives_headless {files : FileTree} {start h : Host} {film : List Display} {r' r'' : Report}
    (hload : r.Gives (o.load (files.read o.rom)) (some start) r')
    (hrun : r'.Gives (o.runHeadless files.create start (.int 0)) (h, film) r'') :
    r.Gives (o.headless files) (if h.halted then 1 else 0) r'' := by
  rw [headless_eq]
  exact hload.bind (hrun.bind (Report.gives_pure _ _))

end

/-- **A run without a window.**  Let a program that is not too large be run for `n` frames
    with options that can be carried through.  Of these frames the ones up to the first that
    halts the host are run.  The displays after each of them are kept; the image is of the
    last display, which is blank if no frame was run; the video is of all displays, if there
    are any.  The host has counted the frames but the one that halted it, and the exit code
    is one if there was such a frame and zero otherwise. -/
theorem headless_run [Storage.Room] {o : Options} {files : FileTree} {config : HostConfig}
    {rom : Rom} {logger : Logger} {n s : ℤ} {c : ColorScheme} (ho : o.Feasible files.create n s c)
    (hseed : IntegerType.int64.holds config.seed = true) (hrom : config.Admits rom)
    (hquota : 0 < n → config.instructionsPerFrame < 2 ^ 31) :
    ∃ (start : Host) (m : ℕ),
      Host.create config rom logger (.text o.rom) = .ok start ∧
      (m : ℕ∞) = min ↑n.toNat start.haltFrame ∧
      let host := start.afterFrames m
      let film := start.displays m
      let image := o.imageOf files.create s c host.machine.display
      let video := o.videoOf s c film
      film.length = m ∧
      (0 < m → film.getLast? = some host.machine.display) ∧
      (m = 0 → host.machine.display = .blank) ∧
      host.frameCount + (if host.halted then 1 else 0) = m ∧
      (host.halted = true ↔ start.haltFrame ≤ n.toNat) ∧
      (∀ elapsed, (host.logger.logRunSummary (.int host.instructionCount)
          (.int host.frameCount) (.number elapsed)).2 = .ok () →
        ∃ last, Report.Gives { logger := start.logger }
          (o.runHeadless files.create start elapsed) (host, film) ⟨last, image, video⟩) ∧
      ∀ arguments, ofArguments arguments = .ok o → o.hostConfig = .ok config →
        files.read o.rom = .ok rom → o.logger false (.int 0) = .ok logger →
        ∃ last, runProgram arguments files =
          ⟨some ⟨last, image, video⟩, .ok (if host.halted then 1 else 0)⟩ := by
  obtain ⟨start, hcreate⟩ := Host.exists_create logger (.text o.rom) hseed hrom
  have hstart := Host.create_eq hcreate
  have hconfig : start.config = config := by rw [hstart]
  have hgo : start.halted = false := by rw [hstart]
  have hcount : start.frameCount = 0 := by rw [hstart]
  have hblank : start.machine.display = .blank := by rw [hstart]; rfl
  have hq : 0 < n → start.config.instructionsPerFrame < 2 ^ 31 := fun hn => hconfig ▸ hquota hn
  obtain ⟨m, hm⟩ := start.exists_frames n.toNat
  have hfits : 0 < m → start.config.instructionsPerFrame < 2 ^ 31 := by
    intro hpos
    have hle : (m : ℕ∞) ≤ n.toNat := hm.trans_le (min_le_left _ _)
    have hle' : m ≤ n.toNat := by exact_mod_cast hle
    exact hq (by omega)
  have hframes := Host.frameCount_afterFrames hfits hgo (hm.trans_le (min_le_right _ _))
  rw [hcount, Nat.zero_add] at hframes
  refine ⟨start, m, hcreate, hm, start.length_displays m, start.getLast?_displays, ?_, hframes,
    Host.halted_afterFrames_iff hgo hm, ?_, ?_⟩
  · rintro rfl
    exact hblank
  · intro elapsed hsummary
    exact gives_runHeadless ho hq hm start.logger hsummary
  · intro arguments hargs hconfig hread hlogger
    have hstill : (start.afterFrames m).logger.Still := by
      refine Host.still_afterFrames ?_ m
      rw [hstart]
      exact ((Logger.still_of_ofSettings hlogger).log _ _).log _ _
    have hsummary := hstill.summary (.int (start.afterFrames m).instructionCount)
      (.int (start.afterFrames m).frameCount)
    obtain ⟨last, hrun⟩ := gives_runHeadless ho hq hm start.logger hsummary
    have hload : Report.Gives { logger } (o.load (files.read o.rom)) (some start)
        { logger := start.logger } := by
      rw [hread]
      exact gives_load hconfig hcreate
    have hheadless := gives_headless hload hrun
    unfold Report.Gives at hheadless
    refine ⟨last, ?_⟩
    rw [runProgram, hargs]
    simp only [hlogger, hheadless]

/-- A program that clears the display and then returns without a call, at one instruction for
    each frame: of the five frames asked for, the second halts the host. -/
theorem headless_run_return :
    let arguments := ["p.ch8", "--frames", "5", "--frequency", "60", "--save-frame", "a.png",
      "--save-video", "a.mp4"]
    let files : FileTree := ⟨[(FileTree.work ++ ["p.ch8"], [0x00, 0xE0, 0x00, 0xEE])]⟩
    ∃ (o : Options) (start : Host) (last : Logger),
      ofArguments arguments = .ok o ∧ start.haltFrame = 2 ∧
        (start.afterFrames 2).frameCount = 1 ∧
        runProgram arguments files =
          ⟨some ⟨last, o.imageOf files.create 8 .classic (start.afterFrames 2).machine.display,
            o.videoOf 8 .classic (start.displays 2)⟩, .ok 1⟩ := by
  intro arguments files
  have hargs : ofArguments arguments = .ok
      { rom := "p.ch8", window := false, frames := .value 5, frequency := .value 60
        seed := .value 0, faultPolicy := .value .halt, scale := .value 8
        colorScheme := .value "classic", saveFrame := some (.value "a.png")
        saveVideo := some (.value "a.mp4"), logLevel := .value .info, noProgress := false } := by
    cbv
  generalize ho : Options.mk _ _ _ _ _ _ _ _ _ _ _ _ = o at hargs
  obtain ⟨config, logger, start, hconfig, hlogger, hcreate, hseed, hlimit, hquota, hgo, hstop⟩ :
      ∃ config logger start, o.hostConfig = .ok config ∧ o.logger false (.int 0) = .ok logger ∧
        Host.create config [0x00, 0xE0, 0x00, 0xEE] logger (.text o.rom) = .ok start ∧
        IntegerType.int64.holds config.seed = true ∧
        config.given.maxRomSize = .int Rom.maxSize ∧ config.instructionsPerFrame < 2 ^ 31 ∧
        start.runFrame.1.halted = false ∧ start.runFrame.1.runFrame.1.halted = true := by
    subst ho
    exact ⟨_, _, _, rfl, rfl, rfl, rfl, rfl, by decide +kernel⟩
  have hread : files.read o.rom = .ok [0x00, 0xE0, 0x00, 0xEE] := by
    subst ho
    exact ok_of_toOption (by decide +kernel)
  have hfeasible : o.Feasible files.create 5 8 .classic := by
    subst ho
    refine ⟨rfl, rfl, Or.inr (by decide), ⟨0, rfl⟩, rfl, ⟨"classic", rfl, rfl⟩,
      fun _ => ok_of_toOption (by decide +kernel), ?_⟩
    rintro name ⟨⟩
    exact ⟨by decide +kernel, FileTree.work ++ ["a.png"], ok_of_toOption (by decide +kernel)⟩
  have hhalt : start.haltFrame = 2 := by
    rw [Host.haltFrame_of_going hgo, Host.haltFrame_of_halted hstop]
    rfl
  have hsize : config.Admits [0x00, 0xE0, 0x00, 0xEE] :=
    (HostConfig.admits_iff hlimit _).2 (by decide)
  obtain ⟨start', m, hcreate', hm, -, -, -, hcount, hhalted, -, hrun⟩ :=
    headless_run hfeasible hseed hsize fun _ => hquota
  obtain rfl : start = start' := Except.ok.inj (hcreate.symm.trans hcreate')
  obtain ⟨last, hrun⟩ := hrun arguments hargs hconfig hread hlogger
  have htwo : m = 2 := by
    have hfive : ((5 : ℤ).toNat : ℕ∞) = 5 := rfl
    rw [hhalt, hfive, min_eq_right (by norm_num)] at hm
    exact_mod_cast hm
  subst htwo
  have hstopped : (start.afterFrames 2).halted = true := hstop
  rw [hstopped] at hcount hrun
  exact ⟨o, start, last, hargs, hhalt, by simpa using hcount, hrun⟩

/-- **What cannot be counted is refused**: frames by a progress bar in 64 bits, the instructions
    of a frame in 32 bits, and a seed in 64 bits.  There is no exit code then, though the
    program halts the host in its first frame. -/
theorem headless_refused :
    let files : FileTree := ⟨[(FileTree.work ++ ["p.ch8"], [0x00, 0xEE])]⟩
    let exitCode := fun arguments => (runProgram ("p.ch8" :: arguments) files).result.toOption
    exitCode [] = some 1 ∧ exitCode ["--frames", "9223372036854775808"] = none ∧
      exitCode ["--frequency", "128849018880"] = none ∧
      exitCode ["--seed", "9223372036854775808"] = none := by
  decide +kernel

end Options

end Chip8
