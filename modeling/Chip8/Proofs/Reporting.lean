/-
  The program — what is left behind of a run.

  A part of a run that succeeds gives a value and leaves a report (`Report.Gives`); what
  parts one after another come to is put together from what each comes to.

  * `Report.Gives.bind`: one part after another;
  * `Logger.Still.summary`: a run that took no time can be summed up in the log;
  * `Options.Feasible`: the options of a run that can be carried through;
  * `Options.gives_report`: the image and the video that are saved of it.
-/
import Chip8.Program.Headless
import Chip8.Proofs.Batching

namespace Chip8

/-! ## Parts of a run -/

namespace Report

/-- From a report a part of a run gives a value and leaves another report. -/
def Gives {α : Type} (r : Report) (part : Reporting α) (a : α) (r' : Report) : Prop :=
  part.run.run r = (.ok a, r')

variable {α β : Type} {r r' r'' : Report}

theorem gives_pure (r : Report) (a : α) : r.Gives (pure a) a r := rfl

/-- **One part after another.** -/
theorem Gives.bind {part : Reporting α} {next : α → Reporting β} {a : α} {b : β}
    (h₁ : r.Gives part a r') (h₂ : r'.Gives (next a) b r'') : r.Gives (part >>= next) b r'' := by
  unfold Gives at h₁ h₂ ⊢
  rw [ExceptT.run_bind, StateT.run_bind, h₁]
  exact h₂

theorem gives_take {e : Except Error α} {a : α} (he : e = .ok a) : r.Gives (take e) a r := by
  rw [he]
  rfl

theorem gives_info (r : Report) (message : String) :
    r.Gives (info message) () { r with logger := r.logger.info message } := rfl

theorem gives_modify (r : Report) (f : Report → Report) : r.Gives (modify f) () (f r) := rfl

end Report

/-! ## Pictures of a scale

A scale below one is taken for one. -/

namespace Image

theorem scaleOf_int (n : ℤ) : scaleOf (.int n) = .ok (max 1 n) := by
  have hscale : scaleOf (.int n) = if (Number.int 1).lt (.int n) then .ok n else .ok 1 := rfl
  rw [hscale]
  simp only [Number.lt_int]
  split_ifs with h
  · rw [max_eq_right h.le]
  · rw [max_eq_left (not_lt.1 h)]

theorem pixelSize_max (n : ℤ) : pixelSize (max 1 n) = pixelSize n := by
  unfold pixelSize
  omega

theorem ofDisplay_max (d : Display) (n : ℤ) (c : ColorScheme) :
    ofDisplay d (max 1 n) c = ofDisplay d n c := by
  rw [ofDisplay, pixelSize_max, ofDisplay]

theorem reserve_max [Storage.Room] (n : ℤ) : reserve (max 1 n) = reserve n := by
  by_cases h : n ≤ 1
  · rw [max_eq_left h, reserve, reserve, if_pos h, if_pos le_rfl]
  · rw [max_eq_right (not_le.1 h).le]

end Image

theorem filmImages_max (persistence : Bool) (n : ℤ) (c : ColorScheme) (g : Glow)
    (film : List Glow) :
    filmImages persistence (max 1 n) c g film = filmImages persistence n c g film := by
  induction film generalizing g with
  | nil => rfl
  | cons light film ih =>
    rw [filmImages, filmImages, Glow.image, Glow.image, Image.pixelSize_max, ih]

/-! ## A log whose clock stands still -/

namespace Logger

/-- The clock has stood still since the logger was made. -/
def Still (l : Logger) : Prop := l.now = .int 0 ∧ l.startTime = .int 0

variable {l : Logger}

theorem Still.log (hl : l.Still) (level message : String) : (l.log level message).Still := by
  unfold Logger.log
  split_ifs
  · exact hl
  · exact hl

theorem Still.logFault (hl : l.Still) (f : Fault) (pc word : ℤ) (action : String) :
    (l.logFault f pc word action).Still :=
  Still.log (l := { l with counts := l.counts.count f }) hl _ _

theorem still_of_ofSettings {s : LoggerSettings} (h : ofSettings s (.int 0) = .ok l) :
    l.Still := by
  unfold ofSettings at h
  split at h
  · split at h
    · cases h
    · cases h
      exact ⟨rfl, rfl⟩
  · cases h

theorem Still.elapsed (hl : l.Still) : l.elapsed = .ok (.int 0) := by
  unfold Logger.elapsed
  rw [hl.1, hl.2]
  rfl

theorem fixed_zero (places : ℕ) : ∃ text, (Number.int 0).fixed places = .ok text := by
  have hzero : (Number.int 0).toFloat?.isSome = true := by decide +kernel
  obtain ⟨x, hx⟩ := Option.isSome_iff_exists.1 hzero
  exact ⟨Decimal.fixed places x, by rw [Number.fixed, Number.toFloat, hx]; rfl⟩

theorem Still.refusal?_eq_none (hl : l.Still) (level : LogLevel) : l.refusal? level = none := by
  obtain ⟨text, htext⟩ := fixed_zero 2
  unfold Logger.refusal? stamp
  rw [hl.elapsed]
  split_ifs
  · simp [bind, Except.bind, htext]
  · rfl
  · rfl

/-- A run that took no time can be summed up. -/
theorem Still.summary (hl : l.Still) (instructions frames : Value) :
    (l.logRunSummary instructions frames (.number (.int 0))).2 = .ok () := by
  obtain ⟨text, htext⟩ := fixed_zero 2
  unfold logRunSummary
  have htime : l.summaryTime (.number (.int 0)) = .ok (.int 0) := rfl
  have hrate : ∀ kind, rate instructions (.int 0) kind = .ok 0 := fun _ => rfl
  simp only [htime, hrate, hl.refusal?_eq_none, htext]

end Logger

/-! ## What is saved -/

namespace Options

/-- **The options of a run that can be carried through**: the frames can be counted, and
    what is to be saved can be made and written. -/
structure Feasible [Storage.Room] (o : Options) (create : String → Except Error Location) (n s : ℤ)
    (c : ColorScheme) : Prop where
  window : o.window = false
  frames : o.frames = .value n
  counted : o.noProgress = true ∨ n < 2 ^ 63
  seed : ∃ seed, o.seed = .value seed
  scale : o.scale = .value s
  scheme : ∃ name, o.colorScheme = .value name ∧ ColorScheme.ofName name = .ok c
  /-- there is room for a picture, if one is made -/
  room : (named o.saveFrame).isSome ∨ (named o.saveVideo).isSome → Image.reserve s = .ok ()
  /-- the image is of a format that can be written, in a file that can be opened -/
  writable : ∀ name, named o.saveFrame = some name →
    ImageFormat.refusal? (fileEnding name) = none ∧ ∃ location, create name = .ok location

/-- The image that a run is to leave behind of a display. -/
def imageOf (o : Options) (create : String → Except Error Location) (s : ℤ)
    (c : ColorScheme) (d : Display) : Option (Location × Image) :=
  (named o.saveFrame).bind fun name =>
    (create name).toOption.map fun location => (location, Image.ofDisplay d s c)

/-- The calls that write the video that a run is to leave behind of displays, if there are
    any. -/
def videoOf (o : Options) (s : ℤ) (c : ColorScheme) (film : List Display) :
    Option (List VideoCall) :=
  (named o.saveVideo).bind fun name =>
    if film.isEmpty then none
    else some (frameCalls (.start name 60 (.int (64 * s)) (.int (32 * s)))
      (filmImages true s c .dark (film.map Glow.ofDisplay)))

section
variable [Storage.Room] {o : Options} {create : String → Except Error Location} {n s : ℤ}
  {c : ColorScheme} {r : Report}

/-- The image of a display. -/
theorem gives_saveImage (ho : o.Feasible create n s c) (d : Display) {name : String}
    (hname : named o.saveFrame = some name) :
    r.Gives (o.saveImage create d name) ()
      { r with
        logger := r.logger.info ("Saved final frame to " ++ name)
        image := o.imageOf create s c d } := by
  obtain ⟨text, htext, hscheme⟩ := ho.scheme
  obtain ⟨hformat, location, hlocation⟩ := ho.writable name hname
  have hroom : Image.reserve (max 1 s) = .ok () := by
    rw [Image.reserve_max]
    exact ho.room (Or.inl (by rw [hname]; rfl))
  have himage : o.imageOf create s c d =
      some (location, Image.ofDisplay d (max 1 s) c) := by
    rw [imageOf, hname, Image.ofDisplay_max]
    simp [hlocation, Except.toOption]
  unfold saveImage
  simp only [hformat]
  refine (Report.gives_take (a := c) (by rw [htext]; exact hscheme)).bind ?_
  refine (Report.gives_take (a := max 1 s)
    (by rw [ho.scale]; exact Image.scaleOf_int s)).bind ?_
  refine (Report.gives_take (a := Image.ofDisplay d (max 1 s) c)
    (by rw [Image.ofDisplay?, hroom]; rfl)).bind ?_
  refine (Report.gives_pure r ()).bind ?_
  refine (Report.gives_take hlocation).bind ?_
  refine (Report.gives_pure r ()).bind ?_
  rw [himage]
  exact (Report.gives_modify r _).bind (Report.gives_info _ _)

/-- The video of displays. -/
theorem gives_saveFilm (ho : o.Feasible create n s c) {film : List Display}
    (hfilm : film.isEmpty = false) {name : String} (hname : named o.saveVideo = some name) :
    r.Gives (o.saveFilm film name) ()
      { r with
        logger := r.logger.info ("Saved " ++ toString film.length ++ " frames to " ++ name)
        video := o.videoOf s c film } := by
  obtain ⟨text, htext, hscheme⟩ := ho.scheme
  have hroom : Image.reserve (max 1 s) = .ok () := by
    rw [Image.reserve_max]
    exact ho.room (Or.inr (by rw [hname]; rfl))
  have hopen : openFilm name { scale := .int s, scheme := .text text } =
      .ok (c, .start name 60 (.int (64 * s)) (.int (32 * s))) := by
    have hname : ColorScheme.ofValue (.text text) = .ok c := hscheme
    simp only [openFilm, Value.times_int, hname]
    rfl
  have hscale : frameScale (.int s) = .ok (max 1 s) := by
    unfold frameScale
    rw [Image.scaleOf_int]
    change (do Image.reserve (max 1 s); return max 1 s) = _
    rw [hroom]
    rfl
  have hwrite : writeFilm (film.map Glow.ofDisplay) name
      { scale := o.scale.toValue .int, scheme := o.colorScheme.toValue .text } =
      (frameCalls (.start name 60 (.int (64 * s)) (.int (32 * s)))
        (filmImages true s c .dark (film.map Glow.ofDisplay)), .ok ()) := by
    have hempty : (film.map Glow.ofDisplay).isEmpty = false := by rw [List.isEmpty_map, hfilm]
    rw [ho.scale, htext, Given.toValue, Given.toValue, writeFilm, hopen]
    simp [hempty, hscale, filmImages_max]
  unfold saveFilm
  rw [hwrite]
  have hvideo : o.videoOf s c film =
      some (frameCalls (.start name 60 (.int (64 * s)) (.int (32 * s)))
        (filmImages true s c .dark (film.map Glow.ofDisplay))) := by
    rw [videoOf, hname]
    simp [hfilm]
  rw [hvideo]
  refine (Report.gives_modify r _).bind ?_
  exact (Report.gives_take rfl).bind (Report.gives_info _ _)

/-- The image, if one was asked for. -/
theorem gives_reportImage (ho : o.Feasible create n s c) (d : Display) (hnone : r.image = none) :
    ∃ logger, r.Gives (o.reportImage create d) ()
      { r with logger, image := o.imageOf create s c d } := by
  unfold reportImage
  cases hname : named o.saveFrame with
  | none =>
    refine ⟨r.logger, ?_⟩
    rw [imageOf, hname, Option.bind_none, ← hnone]
    exact Report.gives_pure r ()
  | some name => exact ⟨_, gives_saveImage ho d hname⟩

/-- The video, if one was asked for. -/
theorem gives_reportFilm (ho : o.Feasible create n s c) (film : List Display)
    (hnone : r.video = none) :
    ∃ logger, r.Gives (o.reportFilm film) () { r with logger, video := o.videoOf s c film } := by
  unfold reportFilm
  cases hname : named o.saveVideo with
  | none =>
    refine ⟨r.logger, ?_⟩
    rw [videoOf, hname, Option.bind_none, ← hnone]
    exact Report.gives_pure r ()
  | some name =>
    cases hempty : film.isEmpty with
    | true =>
      refine ⟨r.logger, ?_⟩
      rw [videoOf, hname, Option.bind_some, hempty, if_pos rfl, ← hnone]
      exact Report.gives_pure r ()
    | false => exact ⟨_, gives_saveFilm ho hempty hname⟩

/-- The report that is left behind. -/
theorem gives_report (ho : o.Feasible create n s c) {h : Host} {film : List Display}
    {elapsed : Number}
    (hsummary : (r.logger.logRunSummary (.int h.instructionCount) (.int h.frameCount)
      (.number elapsed)).2 = .ok ())
    (himage : r.image = none) (hvideo : r.video = none) :
    ∃ logger, r.Gives (o.report create h film elapsed) ()
      { logger, image := o.imageOf create s c h.machine.display, video := o.videoOf s c film } := by
  generalize hlog : r.logger.logRunSummary (.int h.instructionCount) (.int h.frameCount)
    (.number elapsed) = summed at hsummary
  obtain ⟨summed, summary⟩ := summed
  obtain ⟨logger, hsaved⟩ :=
    gives_reportImage (r := { r with logger := summed }) ho h.machine.display himage
  obtain ⟨last, hfilm⟩ := gives_reportFilm
    (r := { r with logger, image := o.imageOf create s c h.machine.display }) ho film hvideo
  refine ⟨last, ?_⟩
  unfold report
  refine Report.Gives.bind (a := r) rfl ?_
  simp only [hlog]
  refine (Report.gives_modify r _).bind ((Report.gives_take hsummary).bind ?_)
  exact hsaved.bind hfilm

end

end Options

end Chip8
