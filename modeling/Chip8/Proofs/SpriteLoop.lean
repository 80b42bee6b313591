/-
  CHIP-8 machine — drawing pixel by pixel.

  A sprite can be drawn by a loop over its rows and columns that, for each set bit, looks
  whether the pixel under it is on and toggles that pixel.  The machine toggles a mask of
  the whole display at once instead.

  * `spots`: the pixels that the loop toggles, in its order; none of them comes twice,
    since a sprite is neither wider nor higher than the display (`nodup_spots`);
  * `foldl_plot`: what toggling different pixels one after another comes to;
  * `draw_pixel_by_pixel`: hence display and flag are those of the loop.
-/
import Chip8.Proofs.Step
import Chip8.Proofs.Transfer

namespace Chip8

/-! ## The loop -/

/-- A display that is drawn to, and whether a pixel that was on has been toggled so far. -/
structure Canvas where
  display : Display
  hit : Bool

/-- Toggle the pixel in row `y` and column `x`. -/
def Display.flip (d : Display) (y : Fin 32) (x : Fin 64) : Display :=
  ofPixels fun y' x' => if (y', x') = (y, x) then !d.pixel y x else d.pixel y' x'

/-- Toggle a pixel, noting whether it was on. -/
def Canvas.plot (k : Canvas) (y : Fin 32) (x : Fin 64) : Canvas where
  display := k.display.flip y x
  hit := k.hit || k.display.pixel y x

namespace Sprite

/-- The bit in column `c`, counted from the left, of row `r` of the sprite at `index`. -/
def bit (m : Memory) (index r c : ℕ) : Bool := (m[index + r]?.getD 0).toNat.testBit (7 - c)

/-- The row `y` rows below the top, counted on from the top past the lower edge. -/
def wrapRow (y : ℕ) : Fin 32 := ⟨y % 32, Nat.mod_lt y (by decide)⟩

/-- The column `x` columns from the left, counted on from the left past the right edge. -/
def wrapColumn (x : ℕ) : Fin 64 := ⟨x % 64, Nat.mod_lt x (by decide)⟩

/-- The loop over the columns of a row. -/
def plotRow (m : Memory) (index px py : ℕ) (k : Canvas) (r : ℕ) : Canvas :=
  (List.range 8).foldl
    (fun k c =>
      if bit m index r c then k.plot (wrapRow (py + r)) (wrapColumn (px + c)) else k) k

/-- The loop over the rows of a sprite. -/
def plotRows (m : Memory) (index px py height : ℕ) (d : Display) : Canvas :=
  (List.range height).foldl (plotRow m index px py) ⟨d, false⟩

/-- A set bit of the sprite lies on the pixel in row `y` and column `x`. -/
def Covers (m : Memory) (index px py height : ℕ) (y : Fin 32) (x : Fin 64) : Prop :=
  ∃ r c, r < height ∧ c < 8 ∧ bit m index r c = true ∧
    y.val = (py + r) % 32 ∧ x.val = (px + c) % 64

end Sprite

/-! ## Pixels toggled one after another -/

namespace Display

variable {d mask : Display}

theorem pixel_flip (d : Display) (y y' : Fin 32) (x x' : Fin 64) :
    (d.flip y x).pixel y' x' = (d.pixel y' x' ^^ decide ((y', x') = (y, x))) := by
  rw [flip, pixel_ofPixels]
  by_cases h : (y', x') = (y, x)
  · cases h
    simp
  · simp [h]

theorem overlaps_iff :
    d.overlaps mask = true ↔ ∃ y x, d.pixel y x = true ∧ mask.pixel y x = true := by
  have hzero : ∀ x, (0 : PixelRow).getMsbD x = false := fun x => BitVec.getMsbD_zero
  simp only [overlaps, List.any_eq_true, List.mem_finRange, true_and, bne_iff_ne, pixel]
  constructor
  · rintro ⟨y, hy⟩
    by_contra hno
    refine hy (BitVec.eq_of_getMsbD_eq fun x hx => ?_)
    rw [BitVec.getMsbD_and, hzero, Bool.and_eq_false_iff]
    by_contra hboth
    simp only [not_or, Bool.not_eq_false] at hboth
    exact hno ⟨y, ⟨x, hx⟩, hboth⟩
  · rintro ⟨y, x, hd, hmask⟩
    refine ⟨y, fun hnone => ?_⟩
    have hbit := congrArg (fun row => BitVec.getMsbD row x) hnone
    simp only [BitVec.getMsbD_and, hd, hmask, hzero, Bool.and_self, Bool.true_eq_false] at hbit

end Display

namespace Canvas

/-- Different pixels toggled one after another: each of them is toggled, and what is noted is
    whether one of them was on at the start. -/
theorem foldl_plot {ps : List (Fin 32 × Fin 64)} (hps : ps.Nodup) (k : Canvas) :
    (∀ y x, (ps.foldl (fun k p => k.plot p.1 p.2) k).display.pixel y x =
        (k.display.pixel y x ^^ decide ((y, x) ∈ ps))) ∧
      (ps.foldl (fun k p => k.plot p.1 p.2) k).hit =
        (k.hit || ps.any fun p => k.display.pixel p.1 p.2) := by
  induction ps generalizing k with
  | nil => simp
  | cons p ps ih =>
    obtain ⟨hp, hps⟩ := List.nodup_cons.1 hps
    obtain ⟨hdisplay, hhit⟩ := ih hps (k.plot p.1 p.2)
    rw [List.foldl_cons]
    constructor
    · intro y x
      rw [hdisplay, plot, Display.pixel_flip, Bool.xor_assoc]
      by_cases h : (y, x) = p
      · cases h
        simp [hp]
      · simp [h]
    · -- the pixels that are still to come are not the one that was toggled
      have hlater : ∀ q ∈ ps, (k.plot p.1 p.2).display.pixel q.1 q.2 = k.display.pixel q.1 q.2 := by
        intro q hq
        have hne : (q.1, q.2) ≠ (p.1, p.2) := by
          intro h
          exact hp ((show q = p from h) ▸ hq)
        rw [plot, Display.pixel_flip, decide_eq_false hne, Bool.xor_false]
      have hany : (ps.any fun q => (k.plot p.1 p.2).display.pixel q.1 q.2) =
          ps.any fun q => k.display.pixel q.1 q.2 := by
        rw [Bool.eq_iff_iff, List.any_eq_true, List.any_eq_true]
        refine exists_congr fun q => and_congr_right fun hq => ?_
        rw [hlater q hq]
      rw [hhit, hany, List.any_cons, plot, Bool.or_assoc]

end Canvas

/-! ## The pixels of a sprite -/

namespace Sprite

variable {m : Memory} {index px py height r c : ℕ} {y : Fin 32} {x : Fin 64}

/-- The pixels under the set bits of a row, from the left. -/
def spotsOfRow (m : Memory) (index px py r : ℕ) : List (Fin 32 × Fin 64) :=
  ((List.range 8).filter (bit m index r)).map fun c => (wrapRow (py + r), wrapColumn (px + c))

/-- The pixels under the set bits of a sprite, row by row. -/
def spots (m : Memory) (index px py height : ℕ) : List (Fin 32 × Fin 64) :=
  (List.range height).flatMap (spotsOfRow m index px py)

theorem plotRow_eq (k : Canvas) :
    plotRow m index px py k r =
      (spotsOfRow m index px py r).foldl (fun k p => k.plot p.1 p.2) k := by
  rw [plotRow, spotsOfRow, List.foldl_map, List.foldl_filter]

theorem plotRows_eq (d : Display) :
    plotRows m index px py height d =
      (spots m index px py height).foldl (fun k p => k.plot p.1 p.2) ⟨d, false⟩ := by
  have hrow : plotRow m index px py = fun k r =>
      (spotsOfRow m index px py r).foldl (fun k p => k.plot p.1 p.2) k := by
    funext k r
    exact plotRow_eq k
  rw [plotRows, spots, List.foldl_flatMap, hrow]

theorem mem_spotsOfRow :
    (y, x) ∈ spotsOfRow m index px py r ↔
      ∃ c, c < 8 ∧ bit m index r c = true ∧ y.val = (py + r) % 32 ∧ x.val = (px + c) % 64 := by
  simp only [spotsOfRow, List.mem_map, List.mem_filter, List.mem_range, Prod.mk.injEq]
  constructor
  · rintro ⟨c, ⟨hc, hbit⟩, rfl, rfl⟩
    exact ⟨c, hc, hbit, rfl, rfl⟩
  · rintro ⟨c, hc, hbit, hy, hx⟩
    exact ⟨c, ⟨hc, hbit⟩, Fin.ext hy.symm, Fin.ext hx.symm⟩

theorem mem_spots : (y, x) ∈ spots m index px py height ↔ Covers m index px py height y x := by
  simp only [spots, List.mem_flatMap, List.mem_range, mem_spotsOfRow, Covers]
  constructor
  · rintro ⟨r, hr, c, h⟩
    exact ⟨r, c, hr, h⟩
  · rintro ⟨r, c, hr, h⟩
    exact ⟨r, hr, c, h⟩

/-- No pixel lies under two bits: neither columns nor rows of a sprite meet round the edge. -/
theorem nodup_spots (hheight : height ≤ 32) : (spots m index px py height).Nodup := by
  refine List.nodup_flatMap.2 ⟨fun r _ => ?_, ?_⟩
  · refine List.Nodup.map_on ?_ (List.nodup_range.filter _)
    intro c hc c' hc' heq
    have hc := List.mem_range.1 (List.mem_of_mem_filter hc)
    have hc' := List.mem_range.1 (List.mem_of_mem_filter hc')
    have hx := congrArg (fun p => p.2.val) heq
    simp only [wrapColumn] at hx
    omega
  · refine List.Pairwise.imp_of_mem ?_ (List.nodup_range (n := height))
    intro r r' hr hr' hne
    have hr := List.mem_range.1 hr
    have hr' := List.mem_range.1 hr'
    rintro ⟨y, x⟩ h h'
    obtain ⟨-, -, -, hy, -⟩ := mem_spotsOfRow.1 h
    obtain ⟨-, -, -, hy', -⟩ := mem_spotsOfRow.1 h'
    omega

/-! ## The mask -/

theorem rowFrom_eq_iff (hr : r < 32) : (rowFrom (py % 32) y).val = r ↔ y.val = (py + r) % 32 := by
  simp only [rowFrom]
  omega

theorem columnFrom_eq_iff (hc : c < 64) :
    (columnFrom (px % 64) x).val = c ↔ x.val = (px + c) % 64 := by
  simp only [columnFrom]
  omega

theorem bit_eq (h : index + r < 4096) (hc : c < 8) :
    bit m index r c = (m.read (index + r)).toBitVec.getMsbD c := by
  rw [bit, Vector.getElem?_eq_getElem h, Option.getD_some, Memory.read_of_lt _ h, BitVec.getMsbD,
    decide_eq_true hc, Bool.true_and]
  rfl

/-- The mask of a sprite within memory has the pixels on that lie under set bits. -/
theorem pixel_mask_iff (hfit : index + height ≤ 4096) (hheight : height ≤ 32) :
    (mask m index (px % 64) (py % 32) height).pixel y x = true ↔
      Covers m index px py height y x := by
  rw [pixel_mask, Bool.and_eq_true, decide_eq_true_iff]
  constructor
  · rintro ⟨hr, hbit⟩
    have hc : (columnFrom (px % 64) x).val < 8 := by
      by_contra hge
      rw [BitVec.getMsbD_of_ge _ _ (not_lt.1 hge)] at hbit
      cases hbit
    refine ⟨_, _, hr, hc, ?_, (rowFrom_eq_iff (Fin.isLt _)).1 rfl,
      (columnFrom_eq_iff (Fin.isLt _)).1 rfl⟩
    rw [bit_eq (by omega) hc]
    exact hbit
  · rintro ⟨r, c, hr, hc, hbit, hy, hx⟩
    rw [(rowFrom_eq_iff (by omega)).2 hy, (columnFrom_eq_iff (by omega)).2 hx]
    have hin : index + r < 4096 := by omega
    exact ⟨hr, bit_eq hin hc ▸ hbit⟩

/-- **The loop toggles the mask**, and notes whether it met a pixel that was on. -/
theorem plotRows_eq_mask (hfit : index + height ≤ 4096) (hheight : height ≤ 32) (d : Display) :
    plotRows m index px py height d =
      ⟨d.toggle (mask m index (px % 64) (py % 32) height),
        d.overlaps (mask m index (px % 64) (py % 32) height)⟩ := by
  have hnodup : (spots m index px py height).Nodup := nodup_spots hheight
  obtain ⟨hdisplay, hhit⟩ := Canvas.foldl_plot hnodup ⟨d, false⟩
  rw [← plotRows_eq] at hdisplay hhit
  have hpixels : (plotRows m index px py height d).display =
      d.toggle (mask m index (px % 64) (py % 32) height) := by
    refine Display.ext_pixel fun y x => ?_
    rw [hdisplay, Display.pixel_toggle, Bool.xor_right_inj, Bool.eq_iff_iff, decide_eq_true_iff,
      mem_spots, pixel_mask_iff hfit hheight]
  have hflag : (plotRows m index px py height d).hit =
      d.overlaps (mask m index (px % 64) (py % 32) height) := by
    rw [hhit, Bool.false_or, Bool.eq_iff_iff, List.any_eq_true, Display.overlaps_iff, Prod.exists]
    refine exists_congr fun y => exists_congr fun x => ?_
    rw [mem_spots, pixel_mask_iff hfit hheight, and_comm]
  rw [← hpixels, ← hflag]

end Sprite

/-! ## Drawing -/

namespace Machine

variable {m : Machine} {x y n : Nibble}

/-- The loop for the sprite at the index register, from the pixel `(VX, VY)` on. -/
def plotSprite (m : Machine) (x y n : Nibble) : Canvas :=
  Sprite.plotRows m.memory m.index.toNat (m.registers.get x).toNat (m.registers.get y).toNat n
    m.display

/-- The machine with a canvas for its display: it is noted as drawn to, and `VF` is the flag. -/
def withCanvas (m : Machine) (k : Canvas) : Machine :=
  { m with
    display := k.display
    displayDirty := true
    registers := m.registers.put 0xF (if k.hit then 1 else 0) }

/-- Nothing stands in the way of drawing a sprite that lies within memory. -/
theorem fault?_draw (hfit : m.index.toNat + n ≤ 4096) : (Instruction.draw x y n).fault? m = none :=
  if_neg (Nat.not_lt.2 hfit)

theorem apply_draw_eq (hfit : m.index.toNat + n ≤ 4096) :
    m.apply (.draw x y n) = m.withCanvas (m.plotSprite x y n) := by
  have hflag : ∀ b : Bool, b.toUInt8 = if b then 1 else 0 := by decide
  rw [plotSprite, Sprite.plotRows_eq_mask hfit (by omega), withCanvas, ← hflag]
  rfl

/-- **A sprite is drawn pixel by pixel.**  Where the sprite of a word `DXYN` lies within memory,
    performing the word without checks leaves the display that the loop leaves, `VF` is one if
    the loop met a pixel that was on and zero if not, the display is noted as drawn to, and
    nothing else has changed.  A step that finds the word does the same, without a fault, and
    moves the program counter past the word. -/
theorem draw_pixel_by_pixel (m : Machine) (x y n : Nibble) (hfit : m.index.toNat + n ≤ 4096) :
    (∀ w : UInt16, w.toNat = 0xD000 + 0x100 * x + 0x10 * y + n →
      m.execute w = m.withCanvas (m.plotSprite x y n)) ∧
    (m.pc.toNat + 1 < 4096 → m.word.toNat = 0xD000 + 0x100 * x + 0x10 * y + n →
      m.step =
        ⟨{ m.withCanvas (m.plotSprite x y n) with pc := m.pc + 2 }, none, m.word, true⟩) := by
  constructor
  · intro w hw
    rw [execute_of_encode (i := .draw x y n) hw, apply_draw_eq hfit]
  · intro hpc hw
    rw [step_of_encode (i := .draw x y n) hpc hw (fault?_draw hfit),
      apply_draw_eq (m := m.advancePc) hfit]
    rfl

/-- Two rows from the last two bytes of memory, drawn over the lower right corner with the
    column in `VF`: the step goes round both edges, and `VF` becomes the flag. -/
theorem draw_pixel_by_pixel_corner :
    ∃ m : Machine, m.index.toNat + 2 ≤ 4096 ∧ m.registers.get 0xF = 0xFE ∧
      m.execute 0xDF12 = m.withCanvas (m.plotSprite 0xF 1 2) ∧
      m.step = ⟨{ m.withCanvas (m.plotSprite 0xF 1 2) with pc := m.pc + 2 }, none, m.word, true⟩ ∧
      m.step.machine.display.pixel 0 0 = true ∧ m.step.machine.registers.get 0xF = 1 := by
  obtain ⟨m, hm⟩ : ∃ m : Machine, m =
      { powerOn ⟨0, 0⟩ with
        memory := (Memory.blank.writeBytes 0x200 [0xDF, 0x12]).writeBytes 0xFFE [0xC0, 0x20]
        registers := ((powerOn ⟨0, 0⟩).registers.put 0xF 0xFE).put 1 0x3F
        index := 0xFFE
        display := Display.blank.set 31 2 } := ⟨_, rfl⟩
  have hfit : m.index.toNat + (2 : Nibble) ≤ 4096 := by rw [hm]; decide
  have hpc : m.pc.toNat + 1 < 4096 := by rw [hm]; decide
  have hword : m.word.toNat = 0xDF12 := by rw [hm]; decide +kernel
  obtain ⟨hexecute, hstep⟩ := draw_pixel_by_pixel m 0xF 1 2 hfit
  refine ⟨m, hfit, ?_, hexecute 0xDF12 rfl, hstep hpc hword, ?_⟩
  · rw [hm]; decide +kernel
  · rw [hm]; decide +kernel

end Machine

end Chip8
