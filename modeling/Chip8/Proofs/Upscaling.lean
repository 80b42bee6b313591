/-
  Rendering — a picture shows its display, pixel by pixel.

  Every pixel of the display becomes a square of the picture, so the display can be read off
  the picture again.

  * `Storage.reserve_eq_ok_iff`, `Image.reserve_eq_ok_iff`: there is room for a picture iff its
    bytes fit;
  * `Image.pixel?_ofRows`: a pixel of a picture that was stretched;
  * `Image.ofGrid_eq`: what becomes of a display in an array, a scale and two colours;
  * `Image.Shows`: the picture of a display, and what can be read off it (`Shows.lit_iff`,
    `Shows.unique`);
  * `Image.ofGrid_shows`: all of it, for any array and any scale.
-/
import Chip8.Proofs.Reporting
import Mathlib.Tactic

namespace Chip8

/-- An element of parts of the same length put together. -/
theorem getElem?_flatMap_of_length {α β : Type} {f : α → List β} {m : ℕ}
    (hf : ∀ a, (f a).length = m) (l : List α) (k : ℕ) {j : ℕ} (hj : j < m) :
    (l.flatMap f)[m * k + j]? = l[k]?.bind fun a => (f a)[j]? := by
  induction l generalizing k with
  | nil => rfl
  | cons a l ih =>
    rw [List.flatMap_cons]
    cases k with
    | zero => simp [List.getElem?_append_left (hf a ▸ hj)]
    | succ k =>
      have hle : (f a).length ≤ m * (k + 1) + j := by
        rw [hf, Nat.mul_succ]
        omega
      have hrest : m * (k + 1) + j - (f a).length = m * k + j := by
        rw [hf, Nat.mul_succ]
        omega
      rw [List.getElem?_append_right hle, hrest, ih, List.getElem?_cons_succ]

/-! ## Room -/

namespace Storage

variable {extents : List ℤ} {bytes n : ℕ}

theorem countBytes_eq (hpos : ∀ e ∈ extents, 0 < e) (h : countBytes bytes extents = .ok n) :
    (n : ℤ) = bytes * extents.prod := by
  induction extents generalizing bytes with
  | nil =>
    rw [List.prod_nil, mul_one, Except.ok.inj h]
  | cons e es ih =>
    have he : 0 < e := hpos e List.mem_cons_self
    rw [countBytes, if_neg he.ne', if_neg he.not_gt] at h
    split_ifs at h
    have hrest := ih (fun e' he' => hpos e' (List.mem_cons_of_mem e he')) h
    rw [hrest, List.prod_cons, Nat.cast_mul, Int.toNat_of_nonneg he.le, mul_assoc]

theorem countBytes_of_lt (hpos : ∀ e ∈ extents, 0 < e) (h : bytes * extents.prod < 2 ^ 63) :
    ∃ n, countBytes bytes extents = .ok n := by
  induction extents generalizing bytes with
  | nil => exact ⟨bytes, rfl⟩
  | cons e es ih =>
    have he : 0 < e := hpos e List.mem_cons_self
    have hes : ∀ e' ∈ es, 0 < e' := fun e' he' => hpos e' (List.mem_cons_of_mem e he')
    have hprod : ((bytes * e.toNat : ℕ) : ℤ) * es.prod < 2 ^ 63 := by
      rw [Nat.cast_mul, Int.toNat_of_nonneg he.le, mul_assoc, ← List.prod_cons]
      exact h
    have hfits : ¬ 0x8000000000000000 ≤ bytes * e.toNat := by
      have hone : 1 ≤ es.prod := List.prod_pos hes
      have hle := Int.mul_le_mul_of_nonneg_left hone (Int.natCast_nonneg (bytes * e.toNat))
      omega
    rw [countBytes, if_neg he.ne', if_neg he.not_gt, if_neg hfits]
    exact ih hes hprod

theorem countBytes_lt (hbytes : bytes < 2 ^ 63) (h : countBytes bytes extents = .ok n) :
    n < 2 ^ 63 := by
  induction extents generalizing bytes with
  | nil =>
    obtain rfl := Except.ok.inj h
    exact hbytes
  | cons e es ih =>
    rw [countBytes] at h
    split_ifs at h
    · exact ih hbytes h
    · exact ih (by omega) h

section
variable [Room]

/-- An array of some bytes can be made: they can be counted in 64 bits, and there is room. -/
def Fits (bytes : ℕ) : Prop := bytes < 2 ^ 63 ∧ bytes ≤ Room.bytes
deriving Decidable

theorem Fits.of_le {bytes' : ℕ} (h : Fits bytes) (hle : bytes' ≤ bytes) : Fits bytes' :=
  ⟨hle.trans_lt h.1, hle.trans h.2⟩

/-- **There is room for an array** iff its bytes fit. -/
theorem reserve_eq_ok_iff (hlength : extents.length ≤ maxExtents) (hpos : ∀ e ∈ extents, 0 < e)
    (hprod : extents.prod = bytes) : reserve extents .uint8 = .ok () ↔ Fits bytes := by
  have hzero : 0 ∉ extents := fun hmem => (hpos 0 hmem).ne rfl
  have hone : ((1 : ℕ) : ℤ) * extents.prod = bytes := by rw [Nat.cast_one, one_mul, hprod]
  unfold reserve
  rw [if_neg (not_lt.2 hlength)]
  by_cases hholds : extents.all IntegerType.int64.holds = true
  · rw [hholds]
    cases hcount : countBytes ElementType.uint8.bytes extents with
    | error e =>
      -- what can be counted in 64 bits is counted
      refine iff_of_false nofun fun hfits => ?_
      obtain ⟨n, hn⟩ := countBytes_of_lt hpos (hone.trans_lt (by exact_mod_cast hfits.1))
      exact nomatch hcount.symm.trans hn
    | ok n =>
      obtain rfl : n = bytes := Int.ofNat_inj.1 ((countBytes_eq hpos hcount).trans hone)
      have hlt : n < 0x8000000000000000 := countBytes_lt (by decide) hcount
      simp only [Except.mapError, bind, Except.bind, throw, throwThe, MonadExceptOf.throw]
      by_cases hroom : n ≤ Room.bytes
      · simp [Fits, hlt, hroom, not_lt.2 hroom, pure, Except.pure]
      · simp [Fits, hroom, not_le.1 hroom, hzero]
  · refine iff_of_false ?_ fun hfits => hholds ?_
    · simp [hholds, bind, Except.bind, throw, throwThe, MonadExceptOf.throw]
    · rw [List.all_eq_true]
      intro e he
      have hbound : e ≤ extents.prod := Int.le_of_dvd (List.prod_pos hpos) (List.dvd_prod he)
      have hpositive := hpos e he
      have hlt := hfits.1
      refine (IntegerType.holds_signed 64 e).2 ⟨by omega, ?_⟩
      show e < 2 ^ 63
      omega

end

end Storage

/-! ## Pictures -/

namespace Image

/-- The bytes of a picture of a display. -/
def bytesOf (scale : ℤ) : ℕ := 32 * pixelSize scale * (64 * pixelSize scale * 3)

/-- **There is room for a picture** iff its bytes fit. -/
theorem reserve_eq_ok_iff [Storage.Room] (scale : ℤ) :
    reserve scale = .ok () ↔ Storage.Fits (bytesOf scale) := by
  have hfirst : Storage.reserve [32, 64, 3] .uint8 = .ok () ↔ Storage.Fits (32 * (64 * 3)) :=
    Storage.reserve_eq_ok_iff (by decide) (by decide) (by decide)
  by_cases hone : scale ≤ 1
  · have hsize : pixelSize scale = 1 := by
      unfold pixelSize
      omega
    rw [bytesOf, hsize, mul_one, mul_one, ← hfirst, reserve]
    simp only [if_pos hone]
    exact iff_of_eq (congrArg (· = _) (bind_pure _))
  · obtain ⟨s, rfl⟩ : ∃ s : ℕ, scale = s := Int.eq_ofNat_of_zero_le (by omega)
    have hsize : pixelSize s = s := by
      unfold pixelSize
      omega
    have hlast : Storage.reserve [32 * (s : ℤ), 64 * s, 3] .uint8 = .ok () ↔
        Storage.Fits (bytesOf s) := by
      refine Storage.reserve_eq_ok_iff (Nat.le_of_ble_eq_true rfl) (by simp; omega) ?_
      rw [bytesOf, hsize]
      simp
    rw [reserve]
    simp only [if_neg hone]
    constructor
    · intro hok
      obtain ⟨-, -, hok⟩ := of_bind_eq_ok hok
      split_ifs at hok
      obtain ⟨-, -, hok⟩ := of_bind_eq_ok hok
      exact hlast.1 hok
    · intro hfits
      have hbytes : bytesOf s = 6144 * (s * s) := by
        rw [bytesOf, hsize]
        ring
      -- what fits has extents that are far from 64 bits
      have hsmall : s < 2 ^ 31 := by
        have hlt := hfits.1
        rw [hbytes] at hlt
        nlinarith
      have hsquare : s ≤ s * s := Nat.le_mul_self s
      have hholds : IntegerType.int64.holds s = true :=
        (IntegerType.holds_signed 64 s).2 ⟨by omega, by norm_num; omega⟩
      have hwrap : (32 * (s : ℤ)).bmod 0x10000000000000000 = 32 * s := by
        rw [Int.bmod_eq_of_le] <;> omega
      have hdown : Storage.reserve [32 * (s : ℤ), 64, 3] .uint8 = .ok () := by
        refine (Storage.reserve_eq_ok_iff (Nat.le_of_ble_eq_true rfl) (by simp; omega) ?_).2
          (hfits.of_le (show 6144 * s ≤ bytesOf s by omega))
        simp
        ring
      rw [hfirst.2 (hfits.of_le (by omega)), ok_bind, hholds, hwrap, hdown, ok_bind, Bool.not_true,
        if_neg Bool.false_ne_true]
      exact hlast.2 hfits

/-- The pixel in a row and a column, if there is one. -/
def pixel? (i : Image) (y x : ℕ) : Option Rgb := i.rows[y]?.bind (·[x]?)

theorem getElem?_stretch {α : Type} {n s : ℕ} (v : Vector α n) {i : ℕ} (hi : i < n * s) :
    (stretch s v)[i]? = v[i / s]? := by
  have hlt : i / s < n := Nat.div_lt_of_lt_mul (Nat.mul_comm n s ▸ hi)
  rw [stretch, Vector.getElem?_ofFn, dif_pos hi, Vector.getElem?_eq_getElem hlt]

/-- **A pixel of a picture that was stretched** is the one of the square it lies in. -/
theorem pixel?_ofRows {w h s : ℕ} (rows : Vector (Vector Rgb w) h) {y x : ℕ} (hy : y < h * s)
    (hx : x < w * s) : (ofRows s rows).pixel? y x = rows[y / s]?.bind (·[x / s]?) := by
  show (stretch s (rows.map (stretch s)))[y]?.bind (·[x]?) = _
  rw [getElem?_stretch _ hy, Vector.getElem?_map]
  cases rows[y / s]? with
  | none => rfl
  | some row => exact getElem?_stretch row hx

/-! ## Colours -/

theorem pack_byte (b : UInt8) : IntegerType.uint8.pack (.int b.toNat) = .ok (b.toNat : ℤ) := by
  have hb := b.toNat_lt
  have hholds : IntegerType.uint8.holds b.toNat = true :=
    (IntegerType.holds_unsigned 8 _).2 ⟨by omega, by norm_num; omega⟩
  simp only [IntegerType.pack, Value.int, hholds, if_true]

theorem ofInt_toNat (b : UInt8) : UInt8.ofInt b.toNat = b := by
  have hb := b.toNat_lt
  rw [UInt8.ofInt, Int.emod_eq_of_lt (by omega) (by omega), Int.toNat_natCast, UInt8.ofNat_toNat]

/-- A colour given for all pixels is that of each. -/
theorem colors_toValue (c : Rgb) (n : ℕ) : c.toValue.colors n = .ok fun _ => c := by
  have hcells : c.toValue.nested.cells.mapM IntegerType.uint8.pack =
      .ok [(c.red.toNat : ℤ), c.green.toNat, c.blue.toNat] := by
    show [_, _, _].mapM _ = _
    simp only [List.mapM_cons, List.mapM_nil, pack_byte]
    rfl
  have hextents : c.toValue.nested.outline.settle = .ok [3] := rfl
  have hcolors : ∀ cell, Grid.colors ⟨[3], cell⟩ n = true := fun _ => rfl
  unfold Value.colors Grid.ofValue
  rw [hextents, hcells, ok_bind, ok_bind, ok_bind, if_pos (hcolors _)]
  refine congrArg Except.ok (funext fun pixel => ?_)
  show Rgb.mk (.ofInt c.red.toNat) (.ofInt c.green.toNat) (.ofInt c.blue.toNat) = c
  rw [ofInt_toNat, ofInt_toNat, ofInt_toNat]

/-- Pixels in one colour each for those that are on and off. -/
theorem colorPixels_const (on off : Rgb) (lit dark : ℕ) (pixels : List Bool) :
    colorPixels (fun _ => on) (fun _ => off) lit dark pixels =
      pixels.map fun p => if p then on else off := by
  induction pixels generalizing lit dark with
  | nil => rfl
  | cons p pixels ih =>
    cases p with
    | true => exact congrArg (on :: ·) (ih (lit + 1) dark)
    | false => exact congrArg (off :: ·) (ih lit (dark + 1))

theorem getElem?_pixels (d : Display) (y : Fin 32) (x : Fin 64) :
    d.pixels[64 * y.val + x.val]? = some (d.pixel y x) := by
  have hrow : ∀ y : Fin 32, ((List.finRange 64).map (d.pixel y)).length = 64 := by simp
  rw [Display.pixels, getElem?_flatMap_of_length hrow _ _ x.isLt]
  simp

/-- A picture in one colour each is the one in the scheme of these. -/
theorem paint_const (d : Display) (scale : ℤ) (on off : Rgb) :
    paint d scale (fun _ => on) (fun _ => off) = ofDisplay d scale ⟨on, off⟩ := by
  have hcolor : ∀ (y : Fin 32) (x : Fin 64),
      (colorPixels (fun _ => on) (fun _ => off) 0 0 d.pixels).toArray.getD (64 * y + x) default =
        if d.pixel y x then on else off := by
    intro y x
    rw [colorPixels_const, Array.getD_eq_getD_getElem?, List.getElem?_toArray, List.getElem?_map,
      getElem?_pixels]
    rfl
  unfold paint ofDisplay
  simp only [hcolor]

/-- The picture of a display for which there is room. -/
theorem ofDisplay?_of_room [Storage.Room] {scale : ℤ} (hroom : Storage.Fits (bytesOf scale))
    (d : Display) (c : ColorScheme) : ofDisplay? d scale c = .ok (ofDisplay d scale c) := by
  rw [ofDisplay?, (reserve_eq_ok_iff scale).2 hroom, ok_bind]

theorem ofDisplay?_max [Storage.Room] (d : Display) (scale : ℤ) (c : ColorScheme) :
    ofDisplay? d (max 1 scale) c = ofDisplay? d scale c := by
  rw [ofDisplay?, ofDisplay?, reserve_max, ofDisplay_max]

/-! ## The picture of a display -/

/-- The display whose pixels are on where an array is not zero. -/
def displayOf (g : Grid UInt8) : Display := .ofPixels fun y x => g.cell (64 * y + x) != 0

/-- What becomes of a display in an array, a scale and two colours. -/
theorem ofGrid_eq [Storage.Room] {g : Grid UInt8} (hg : g.extents = [32, 64]) (scale : ℤ)
    (on off : Rgb) :
    ofGrid g (.int scale) on.toValue off.toValue =
      ofDisplay? (displayOf g) scale ⟨on, off⟩ := by
  have hdisplay : Display.ofGrid g = .ok (displayOf g) := if_pos hg
  unfold ofGrid ofDisplay?
  rw [hdisplay, ok_bind, colors_toValue, ok_bind, colors_toValue, ok_bind, scaleOf_int, ok_bind,
    reserve_max, paint_const, ofDisplay_max]

theorem ofGrid_of_shape [Storage.Room] {g : Grid UInt8} (hg : g.extents ≠ [32, 64])
    (scale on off : Value) :
    ofGrid g scale on off = .error (.array (.displayShape g.extents)) := by
  have hdisplay : Display.ofGrid g = .error (.array (.displayShape g.extents)) := if_neg hg
  unfold ofGrid
  rw [hdisplay]
  rfl

/-- **A picture shows a display** in an array: each of its cells is a square of `s` by `s`
    pixels. -/
structure Shows (i : Image) (g : Grid UInt8) (s : ℕ) (on off : Rgb) : Prop where
  height : i.height = 32 * s
  width : i.width = 64 * s
  pixel : ∀ {y x}, y < 32 * s → x < 64 * s →
    i.pixel? y x = some (if g.cell (64 * (y / s) + x / s) ≠ 0 then on else off)

theorem shows_ofDisplay (g : Grid UInt8) (scale : ℤ) (on off : Rgb) :
    (ofDisplay (displayOf g) scale ⟨on, off⟩).Shows g (pixelSize scale) on off where
  height := rfl
  width := rfl
  pixel := by
    intro y x hy hx
    have hrow : y / pixelSize scale < 32 := Nat.div_lt_of_lt_mul (Nat.mul_comm _ _ ▸ hy)
    have hcolumn : x / pixelSize scale < 64 := Nat.div_lt_of_lt_mul (Nat.mul_comm _ _ ▸ hx)
    rw [ofDisplay, pixel?_ofRows _ hy hx, Vector.getElem?_ofFn, dif_pos hrow, Option.bind_some,
      Vector.getElem?_ofFn, dif_pos hcolumn, displayOf, Display.pixel_ofPixels]
    simp

/-- Two arrays hold the same display. -/
def SameDisplay (g g' : Grid UInt8) : Prop :=
  ∀ y < 32, ∀ x < 64, (g.cell (64 * y + x) ≠ 0 ↔ g'.cell (64 * y + x) ≠ 0)

theorem displayOf_congr {g g' : Grid UInt8} (h : SameDisplay g g') :
    displayOf g = displayOf g' := by
  refine congrArg Display.ofPixels (funext₂ fun y x => ?_)
  rw [Bool.eq_iff_iff, bne_iff_ne, bne_iff_ne]
  exact h y y.isLt x x.isLt

variable {i : Image} {g g' : Grid UInt8} {s : ℕ} {on off : Rgb}

/-- **The display is read off** the picture at the corner of each square. -/
theorem Shows.lit_iff (h : i.Shows g s on off) (hs : 0 < s) (hne : on ≠ off) {y x : ℕ}
    (hy : y < 32) (hx : x < 64) :
    i.pixel? (y * s) (x * s) = some on ↔ g.cell (64 * y + x) ≠ 0 := by
  rw [h.pixel (Nat.mul_lt_mul_of_pos_right hy hs) (Nat.mul_lt_mul_of_pos_right hx hs),
    Nat.mul_div_cancel y hs, Nat.mul_div_cancel x hs]
  by_cases hcell : g.cell (64 * y + x) ≠ 0
  · simp [hcell]
  · simp [hcell, hne.symm]

/-- A picture shows one display only. -/
theorem Shows.unique (h : i.Shows g s on off) (h' : i.Shows g' s on off) (hs : 0 < s)
    (hne : on ≠ off) : SameDisplay g g' :=
  fun _ hy _ hx => (h.lit_iff hs hne hy hx).symm.trans (h'.lit_iff hs hne hy hx)

/-- **The picture of a display is exact and loses nothing.**  Let `s` be the scale, or one if
    this is greater.  If there is room for the picture of a display, it has `32 * s` rows of
    `64 * s` pixels, and each of them has the colour of the pixel of the display whose square
    it lies in.  If the colours differ, the display can be read off the picture in steps of
    `s`, and another display has the same picture only if it is the same.  Otherwise, and if
    the array has another shape, there is no picture. -/
theorem ofGrid_shows [Storage.Room] (g : Grid UInt8) (scale : ℤ) (on off : Rgb) :
    (g.extents ≠ [32, 64] → ∀ scale on off : Value,
      ofGrid g scale on off = .error (.array (.displayShape g.extents))) ∧
    (g.extents = [32, 64] →
      let s := pixelSize scale
      (¬ Storage.Fits (32 * s * (64 * s * 3)) →
        ∃ e, ofGrid g (.int scale) on.toValue off.toValue = .error e) ∧
      (Storage.Fits (32 * s * (64 * s * 3)) →
        ∃ i, ofGrid g (.int scale) on.toValue off.toValue = .ok i ∧ i.Shows g s on off ∧
          (on ≠ off →
            (∀ y < 32, ∀ x < 64,
              (i.pixel? (y * s) (x * s) = some on ↔ g.cell (64 * y + x) ≠ 0)) ∧
            ∀ g', g'.extents = [32, 64] →
              (ofGrid g' (.int scale) on.toValue off.toValue = .ok i ↔ SameDisplay g g')))) := by
  refine ⟨ofGrid_of_shape, fun hg => ?_⟩
  intro s
  have hs : 0 < s := Nat.lt_of_lt_of_le Nat.one_pos (le_max_left 1 scale.toNat)
  constructor
  · intro hlarge
    rw [ofGrid_eq hg, ofDisplay?]
    cases hreserve : reserve scale with
    | error e => exact ⟨e, rfl⟩
    | ok _ => exact absurd ((reserve_eq_ok_iff scale).1 hreserve) hlarge
  · intro hfits
    have hpicture : ∀ {g' : Grid UInt8}, g'.extents = [32, 64] →
        ofGrid g' (.int scale) on.toValue off.toValue =
          .ok (ofDisplay (displayOf g') scale ⟨on, off⟩) := by
      intro g' hg'
      rw [ofGrid_eq hg', ofDisplay?_of_room hfits]
    have hshows := shows_ofDisplay g scale on off
    refine ⟨_, hpicture hg, hshows, fun hne => ⟨fun y hy x hx => hshows.lit_iff hs hne hy hx, ?_⟩⟩
    intro g' hg'
    rw [hpicture hg']
    constructor
    · intro heq
      have hshows' := shows_ofDisplay g' scale on off
      rw [Except.ok.inj heq] at hshows'
      exact hshows.unique hshows' hs hne
    · intro hsame
      rw [displayOf_congr hsame]

/-- A display with its last pixel on, in squares of two by two pixels and in squares for which
    there is no room, the dark display, and an array that lacks a row. -/
theorem ofGrid_shows_corner :
    let white : Rgb := ⟨255, 255, 255⟩
    let black : Rgb := ⟨0, 0, 0⟩
    let g : Grid UInt8 := ⟨[32, 64], fun k => if k = 2047 then 1 else 0⟩
    let dark : Grid UInt8 := ⟨[32, 64], fun _ => 0⟩
    let short : Grid UInt8 := ⟨[31, 64], fun _ => 0⟩
    short.extents ≠ [32, 64] ∧ g.extents = [32, 64] ∧ white ≠ black ∧
      Storage.Fits (32 * pixelSize 2 * (64 * pixelSize 2 * 3)) ∧
      ¬ Storage.Fits (32 * pixelSize 4000 * (64 * pixelSize 4000 * 3)) ∧
      ofGrid short (.int 2) white.toValue black.toValue =
        .error (.array (.displayShape [31, 64])) ∧
      (∃ e, ofGrid g (.int 4000) white.toValue black.toValue = .error e) ∧
      ∃ i, ofGrid g (.int 2) white.toValue black.toValue = .ok i ∧ i.height = 64 ∧
        i.width = 128 ∧ i.pixel? 63 126 = some white ∧ i.pixel? 61 126 = some black ∧
        i.pixel? 62 126 = some white ∧
        ofGrid dark (.int 2) white.toValue black.toValue ≠ .ok i := by
  intro white black g dark short
  have hfits : Storage.Fits (32 * pixelSize 2 * (64 * pixelSize 2 * 3)) := by decide +kernel
  have hlarge : ¬ Storage.Fits (32 * pixelSize 4000 * (64 * pixelSize 4000 * 3)) := by
    decide +kernel
  have hrefused := ((ofGrid_shows g 4000 white black).2 rfl).1 hlarge
  obtain ⟨i, hi, hshows, hread⟩ := ((ofGrid_shows g 2 white black).2 rfl).2 hfits
  obtain ⟨hlit, hunique⟩ := hread (by decide)
  have hcorner : g.cell (64 * 31 + 63) ≠ 0 := by decide
  refine ⟨by decide, rfl, by decide, hfits, hlarge,
    (ofGrid_shows short 2 white black).1 (by decide) _ _ _, hrefused, i, hi, hshows.height,
    hshows.width, hshows.pixel (by decide) (by decide), hshows.pixel (by decide) (by decide),
    (hlit 31 (by decide) 63 (by decide)).2 hcorner, fun hdark => ?_⟩
  have hsame := (hunique dark rfl).1 hdark
  exact (hsame 31 (by decide) 63 (by decide)).1 hcorner rfl

/-- **A scale that does not fit into 64 bits is refused**, though the display has its shape and
    the colours are colours. -/
theorem ofGrid_refused :
    let g : Grid UInt8 := ⟨[32, 64], fun _ => 0⟩
    let scale : ℤ := 0x8000000000000000
    ofGrid g (.int scale) (Rgb.toValue ⟨255, 255, 255⟩) (Rgb.toValue ⟨0, 0, 0⟩) =
      .error .longOverflow := by
  intro g scale
  rw [ofGrid_eq rfl]
  rfl

end Image

end Chip8
