/-
  Rendering — the size of a film.

  A writer is opened with a size that is computed from the scale alone.  Its frames are made like
  pictures, for which a scale below one counts as one.

  * `Image.exists_ofGrid`, `Image.exists_ofGridNamed`: a picture and its size;
  * `filmImages_eq`: the frames of a film, each from the displays up to its own;
  * `writeFilm_of_room`, `writeFilm_of_full`: the calls that write a film;
  * `fits_filmImages_iff`: when the frames of a film have the size its writer expects;
  * `film_geometry`: what a writer is opened with, what it is given, and when its frames have
    the size it expects;
  * `film_too_large_for_its_writer`: with a scale of zero they have not.
-/
import Chip8.Proofs.Upscaling

namespace Chip8

/-- The size of an image is that of a display whose pixels are squares of `s` by `s`. -/
def Image.HasSize (i : Image) (s : ℕ) : Prop := i.width = 64 * s ∧ i.height = 32 * s

namespace Image

variable [Storage.Room] {g : Grid UInt8} {scale : ℤ}

/-- **There is a picture of a display** for which there is room, and its size. -/
theorem exists_ofGrid (hg : g.extents = [32, 64]) (hroom : Storage.Fits (bytesOf scale))
    (on off : Rgb) :
    ∃ i, ofGrid g (.int scale) on.toValue off.toValue = .ok i ∧ i.HasSize (pixelSize scale) := by
  refine ⟨ofDisplay (displayOf g) scale ⟨on, off⟩, ?_, rfl, rfl⟩
  rw [ofGrid_eq hg, ofDisplay?_of_room hroom]

theorem exists_ofGridNamed {scheme : Value} {c : ColorScheme} (hg : g.extents = [32, 64])
    (hroom : Storage.Fits (bytesOf scale)) (hc : ColorScheme.ofValue scheme = .ok c) :
    ∃ i, ofGridNamed g (.int scale) scheme = .ok i ∧ i.HasSize (pixelSize scale) := by
  have hdisplay : Display.ofGrid g = .ok (displayOf g) := if_pos hg
  refine ⟨ofDisplay (displayOf g) scale c, ?_, rfl, rfl⟩
  unfold ofGridNamed
  rw [hc, ok_bind, hdisplay, ok_bind, scaleOf_int, ok_bind, ofDisplay?_max,
    ofDisplay?_of_room hroom]

end Image

namespace VideoCall

/-- The call opens a writer for frames of the size of an image. -/
def Fits (call : VideoCall) (i : Image) : Prop :=
  ∃ file fps, call = .start file fps (.int i.width) (.int i.height)

/-- The frame that a call hands over. -/
def frame? : VideoCall → Option Image
  | frame i => some i
  | _ => none

/-- The frames that calls hand over. -/
def frames (calls : List VideoCall) : List Image := calls.filterMap frame?

theorem frames_frameCalls {file : String} {fps : Float} {width height : Value}
    (images : List Image) : frames (frameCalls (.start file fps width height) images) = images := by
  have himages : (images.map VideoCall.frame).filterMap frame? = images := by
    rw [List.filterMap_map]
    exact List.filterMap_some
  rw [frameCalls, frames, List.filterMap_cons_none rfl, List.filterMap_append, himages]
  exact List.append_nil images

end VideoCall

/-! ## Frames -/

namespace Glow

/-- The brightness after one display more. -/
def next (persistence : Bool) (g light : Glow) : Glow :=
  if persistence then g.expose light else light

/-- The brightness after several displays. -/
def after (persistence : Bool) (g : Glow) (film : List Glow) : Glow :=
  film.foldl (next persistence) g

end Glow

/-- **The frames of a film**: there is one for each display, made from this and those before. -/
theorem filmImages_eq (persistence : Bool) (scale : ℤ) (c : ColorScheme) (g : Glow)
    (film : List Glow) :
    filmImages persistence scale c g film = (List.range film.length).map fun k =>
      (Glow.after persistence g (film.take (k + 1))).image scale c := by
  induction film generalizing g with
  | nil => rfl
  | cons light film ih =>
    rw [filmImages, ih, List.length_cons, List.range_succ_eq_map, List.map_cons, List.map_map]
    rfl

theorem size_of_mem_filmImages {persistence : Bool} {scale : ℤ} {c : ColorScheme} {g : Glow}
    {film : List Glow} {i : Image} (hi : i ∈ filmImages persistence scale c g film) :
    i.HasSize (Image.pixelSize scale) := by
  rw [filmImages_eq] at hi
  obtain ⟨k, -, rfl⟩ := List.mem_map.1 hi
  exact ⟨rfl, rfl⟩

/-! ## Writing -/

section
variable {film : List Glow} {file : String} {s : VideoSettings} {scale : ℤ} {c : ColorScheme}
  {fps : Float}

/-- The call that opens a writer: its size is that of a display times the scale. -/
def opening (file : String) (fps : Float) (scale : ℤ) : VideoCall :=
  .start file fps (.int (64 * scale)) (.int (32 * scale))

theorem openFilm_eq (hscale : s.scale = .int scale) (hc : ColorScheme.ofValue s.scheme = .ok c)
    (hfps : s.fps.rate = .ok fps) : openFilm file s = .ok (c, opening file fps scale) := by
  unfold openFilm
  rw [hscale, Value.times_int, ok_bind, Value.times_int, ok_bind, hc, ok_bind, hfps, ok_bind]
  rfl

theorem frameScale_int [Storage.Room] (scale : ℤ) :
    frameScale (.int scale) = (Image.reserve scale).map fun _ => max 1 scale := by
  unfold frameScale
  rw [Image.scaleOf_int, ok_bind, Image.reserve_max]
  cases Image.reserve scale with
  | error e => rfl
  | ok _ => rfl

/-- A film is written if it is empty or there is room for a frame. -/
theorem writeFilm_of_room [Storage.Room] (hscale : s.scale = .int scale)
    (hc : ColorScheme.ofValue s.scheme = .ok c) (hfps : s.fps.rate = .ok fps)
    (hroom : film = [] ∨ Storage.Fits (Image.bytesOf scale)) :
    writeFilm film file s =
      (frameCalls (opening file fps scale) (filmImages s.persistence scale c .dark film),
        .ok ()) := by
  unfold writeFilm
  rw [openFilm_eq hscale hc hfps]
  rcases hroom with rfl | hroom
  · rfl
  · have hframe : (if film.isEmpty then .ok 1 else frameScale s.scale) =
        .ok (if film.isEmpty then 1 else max 1 scale) := by
      rw [hscale, frameScale_int, (Image.reserve_eq_ok_iff scale).2 hroom]
      split_ifs
      · rfl
      · rfl
    simp only [hframe]
    cases film with
    | nil => rfl
    | cons light film =>
      rw [← filmImages_max s.persistence scale c .dark]
      rfl

/-- If there is no room the writer is released without a frame. -/
theorem writeFilm_of_full [Storage.Room] (hscale : s.scale = .int scale)
    (hc : ColorScheme.ofValue s.scheme = .ok c) (hfps : s.fps.rate = .ok fps) (hfilm : film ≠ [])
    (hfull : ¬ Storage.Fits (Image.bytesOf scale)) :
    ∃ e, writeFilm film file s = (frameCalls (opening file fps scale) [], .error e) := by
  unfold writeFilm
  rw [openFilm_eq hscale hc hfps]
  have hnot : ¬ film.isEmpty = true := mt List.isEmpty_iff.1 hfilm
  have hframe : (if film.isEmpty then .ok 1 else frameScale s.scale) = frameScale (.int scale) := by
    rw [if_neg hnot, hscale]
  simp only [hframe, frameScale_int]
  cases hreserve : Image.reserve scale with
  | error e => exact ⟨e, rfl⟩
  | ok _ => exact absurd ((Image.reserve_eq_ok_iff scale).1 hreserve) hfull

/-- A writer expects the frames it is given iff the scale is one at least. -/
theorem fits_opening_iff {i : Image} (hi : i.HasSize (Image.pixelSize scale)) :
    (opening file fps scale).Fits i ↔ 1 ≤ scale := by
  obtain ⟨hwidth, hheight⟩ := hi
  constructor
  · rintro ⟨file', fps', heq⟩
    injection heq with _ _ hsame
    have hsame : 64 * scale = (i.width : ℤ) := Number.int.inj (Value.number.inj hsame)
    rw [hwidth, Image.pixelSize] at hsame
    omega
  · intro hscale
    have hsize : (Image.pixelSize scale : ℤ) = scale := by
      rw [Image.pixelSize]
      omega
    refine ⟨file, fps, ?_⟩
    rw [hwidth, hheight, Nat.cast_mul, Nat.cast_mul, hsize]
    rfl

theorem length_filmImages (persistence : Bool) (scale : ℤ) (c : ColorScheme) (g : Glow)
    (film : List Glow) : (filmImages persistence scale c g film).length = film.length := by
  rw [filmImages_eq, List.length_map, List.length_range]

/-- A writer expects all frames of a film iff there are none or the scale is one at least. -/
theorem fits_filmImages_iff (persistence : Bool) (g : Glow) :
    (∀ i ∈ filmImages persistence scale c g film, (opening file fps scale).Fits i) ↔
      film = [] ∨ 1 ≤ scale := by
  constructor
  · intro hall
    refine or_iff_not_imp_left.2 fun hfilm => ?_
    obtain ⟨i, hi⟩ := List.exists_mem_of_length_pos
      ((length_filmImages persistence scale c g film).symm ▸ List.length_pos_of_ne_nil hfilm)
    exact (fits_opening_iff (size_of_mem_filmImages hi)).1 (hall i hi)
  · rintro (rfl | hscale) i hi
    · cases hi
    · exact (fits_opening_iff (size_of_mem_filmImages hi)).2 hscale

theorem filmOfGrid_eq {g : Grid UInt8} {n : ℕ} (hg : g.extents = [n, 32, 64]) :
    Glow.filmOfGrid g = .ok ((List.range n).map (Glow.ofLayer g)) := by
  unfold Glow.filmOfGrid
  rw [hg]
  rfl

/-- A film in an array is written like its displays. -/
theorem writeGrid_eq [Storage.Room] {g : Grid UInt8} {calls : List VideoCall}
    {result : Except Error Unit} (hgrid : Glow.filmOfGrid g = .ok film)
    (hwrite : writeFilm film file s = (calls, result)) :
    writeGrid g file s = result.map fun _ => calls := by
  unfold writeGrid
  rw [hgrid, ok_bind]
  show (do (writeFilm film file s).2; Except.ok (writeFilm film file s).1) = _
  rw [hwrite]
  cases result with
  | error e => rfl
  | ok _ => rfl

/-- **The size of a film.**  For an array of `n` displays, whatever the scale, the colours by name
    and whether pixels glow on: the writer is opened first and released last, once each, and
    in between it is given frames.  If there is room for a frame these are `n`, in order, each
    made from its display and with persistence from those before, and there is the picture of
    a display for the same scale; all of them have one size.  The writer expects this size
    iff the scale is one at least: below, it is opened for an empty or a negative size.  If
    there is no room there is no frame, and an error. -/
theorem film_geometry [Storage.Room] {g : Grid UInt8} {n : ℕ} (hg : g.extents = [n, 32, 64])
    (file : String) (hscale : s.scale = .int scale) (hc : ColorScheme.ofValue s.scheme = .ok c)
    (hfps : s.fps.rate = .ok fps) :
    let p := Image.pixelSize scale
    let film := (List.range n).map (Glow.ofLayer g)
    let calls := (writeFilm film file s).1
    let images := VideoCall.frames calls
    Glow.filmOfGrid g = .ok film ∧
      calls = opening file fps scale :: (images.map .frame ++ [.release]) ∧
      (n = 0 ∨ Storage.Fits (32 * p * (64 * p * 3)) →
        writeGrid g file s = .ok calls ∧
          images = (List.range n).map (fun k =>
            (Glow.after s.persistence .dark (film.take (k + 1))).image scale c) ∧
          (∀ i ∈ images, i.HasSize p) ∧
          ((∀ i ∈ images, (opening file fps scale).Fits i) ↔ n = 0 ∨ 1 ≤ scale)) ∧
      (0 < n → ¬ Storage.Fits (32 * p * (64 * p * 3)) →
        images = [] ∧ ∃ e, writeGrid g file s = .error e) ∧
      (Storage.Fits (32 * p * (64 * p * 3)) → ∀ d : Grid UInt8, d.extents = [32, 64] →
        (∀ on off : Rgb, ∃ i,
          Image.ofGrid d (.int scale) on.toValue off.toValue = .ok i ∧ i.HasSize p) ∧
        ∃ i, Image.ofGridNamed d (.int scale) s.scheme = .ok i ∧ i.HasSize p) := by
  intro p film calls images
  have hgrid : Glow.filmOfGrid g = .ok film := filmOfGrid_eq hg
  have hlength : film.length = n := by rw [List.length_map, List.length_range]
  have hempty : film = [] ↔ n = 0 := by rw [← List.length_eq_zero_iff, hlength]
  -- the frames are those that were handed over
  have hframes : ∀ {drawn result},
      writeFilm film file s = (frameCalls (opening file fps scale) drawn, result) →
        images = drawn ∧ calls = opening file fps scale :: (images.map .frame ++ [.release]) := by
    intro drawn result hwrite
    have hcalls : calls = frameCalls (opening file fps scale) drawn := congrArg Prod.fst hwrite
    have himages : images = drawn :=
      (congrArg VideoCall.frames hcalls).trans (VideoCall.frames_frameCalls drawn)
    exact ⟨himages, by rw [himages, hcalls]; rfl⟩
  have hrefused : n ≠ 0 → ¬ Storage.Fits (Image.bytesOf scale) →
      ∃ e, writeFilm film file s = (frameCalls (opening file fps scale) [], .error e) :=
    fun hn => writeFilm_of_full hscale hc hfps (mt hempty.1 hn)
  refine ⟨hgrid, ?_, fun hroom => ?_, fun hn hlarge => ?_, fun hroom d hd =>
    ⟨Image.exists_ofGrid hd hroom, Image.exists_ofGridNamed hd hroom hc⟩⟩
  · by_cases hroom : n = 0 ∨ Storage.Fits (Image.bytesOf scale)
    · exact (hframes (writeFilm_of_room hscale hc hfps (hroom.imp_left hempty.2))).2
    · rw [not_or] at hroom
      obtain ⟨e, hfull⟩ := hrefused hroom.1 hroom.2
      exact (hframes hfull).2
  · have hwrite : writeFilm film file s = _ :=
      writeFilm_of_room hscale hc hfps (hroom.imp_left hempty.2)
    obtain ⟨himages, -⟩ := hframes hwrite
    have hcalls : calls = _ := congrArg Prod.fst hwrite
    refine ⟨?_, ?_, fun i hi => size_of_mem_filmImages (himages ▸ hi), ?_⟩
    · rw [writeGrid_eq hgrid hwrite, hcalls]
      rfl
    · rw [himages, filmImages_eq, hlength]
    · rw [himages, fits_filmImages_iff, hempty]
  · obtain ⟨e, hfull⟩ := hrefused hn.ne' hlarge
    exact ⟨(hframes hfull).1, e, writeGrid_eq hgrid hfull⟩

/-- A film of two displays with the usual settings, and with a scale for which there is no room. -/
theorem film_geometry_two :
    let g : Grid UInt8 := ⟨[2, 32, 64], fun k => if k = 0 then 1 else 0⟩
    let s : VideoSettings := {}
    let first := (Glow.after true .dark [.ofLayer g 0]).image 8 .classic
    let second := (Glow.after true .dark [.ofLayer g 0, .ofLayer g 1]).image 8 .classic
    s.scale = .int 8 ∧ ColorScheme.ofValue s.scheme = .ok .classic ∧ s.fps.rate = .ok 60 ∧
      writeGrid g "film.mp4" s =
        .ok [opening "film.mp4" 60 8, .frame first, .frame second, .release] ∧
      first.HasSize 8 ∧ (opening "film.mp4" 60 8).Fits first ∧
      (∃ i, Image.ofGridNamed ⟨[32, 64], fun _ => 1⟩ (.int 8) s.scheme = .ok i ∧ i.HasSize 8) ∧
      ∃ e, writeGrid g "film.mp4" { s with scale := .int 4000 } = .error e := by
  intro g s first second
  have hc : ColorScheme.ofValue s.scheme = .ok .classic := rfl
  have hfps : s.fps.rate = .ok 60 := rfl
  have hlarge : ¬ Storage.Fits (32 * Image.pixelSize 4000 * (64 * Image.pixelSize 4000 * 3)) := by
    decide +kernel
  have hroom : Storage.Fits (32 * Image.pixelSize 8 * (64 * Image.pixelSize 8 * 3)) := by
    decide +kernel
  obtain ⟨-, hcalls, hmade, -, hpicture⟩ :=
    film_geometry (g := g) rfl "film.mp4" (s := s) rfl hc hfps
  obtain ⟨-, -, -, hfull, -⟩ := film_geometry (g := g) rfl "film.mp4"
    (s := { s with scale := .int 4000 }) rfl hc hfps
  obtain ⟨hwrite, himages, hsizes, hfits⟩ := hmade (Or.inr hroom)
  have hlist : [first, second] = _ := himages.symm
  rw [← hlist] at hsizes hfits hcalls
  refine ⟨rfl, hc, hfps, ?_, hsizes first (by simp), hfits.2 (Or.inr (by decide)) first (by simp),
    (hpicture hroom _ rfl).2, (hfull (by decide) hlarge).2⟩
  rw [hwrite, hcalls]
  rfl

/-- **A film may be too large for its writer**: with a scale of zero this is opened for a size of
    zero by zero, and the frame it is given has the size of the display, as a picture has. -/
theorem film_too_large_for_its_writer :
    let g : Grid UInt8 := ⟨[1, 32, 64], fun _ => 0⟩
    ∃ frame picture, writeGrid g "film.mp4" { scale := .int 0 } =
        .ok [.start "film.mp4" 60 (.int 0) (.int 0), .frame frame, .release] ∧
      frame.width = 64 ∧ frame.height = 32 ∧
      Image.ofGridNamed ⟨[32, 64], fun _ => 0⟩ (.int 0) (.text "classic") = .ok picture ∧
      picture.width = 64 ∧ picture.height = 32 :=
  ⟨_, _, rfl, rfl, rfl, rfl, rfl, rfl⟩

end

end Chip8
