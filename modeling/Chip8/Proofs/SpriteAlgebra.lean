/-
  CHIP-8 machine — sprites drawn one after another.

  What drawing a sprite toggles depends on memory and on where the sprite is drawn, but not
  on what the display shows.

  * `toggle_right_comm`, `toggle_toggle`: toggling commutes and cancels;
  * `Draws`: a machine that draws sprites in turn, with anything in between that leaves
    memory and display alone;
  * `display_of_draws`: it toggles the masks of the sprites, in their order;
  * `draws_commute_and_cancel`: hence the order does not matter, what is drawn twice is not
    seen, and the flags of two equal drawings tell what the display showed before.
-/
import Chip8.Proofs.SpriteLoop

namespace Chip8

/-! ## Masks -/

namespace Display

theorem toggle_right_comm (d a b : Display) : (d.toggle a).toggle b = (d.toggle b).toggle a := by
  refine ext_pixel fun y x => ?_
  simp only [pixel_toggle, Bool.xor_right_comm]

instance : RightCommutative toggle := ⟨toggle_right_comm⟩

theorem toggle_toggle (d mask : Display) : (d.toggle mask).toggle mask = d := by
  refine ext_pixel fun y x => ?_
  simp only [pixel_toggle, Bool.xor_assoc, Bool.xor_self, Bool.xor_false]

/-- After a mask has been toggled, it meets a pixel that is on iff it met one that was off. -/
theorem overlaps_toggle_iff (d mask : Display) :
    (d.toggle mask).overlaps mask = true ↔
      ∃ y x, mask.pixel y x = true ∧ d.pixel y x = false := by
  rw [overlaps_iff]
  refine exists_congr fun y => exists_congr fun x => ?_
  rw [pixel_toggle]
  cases d.pixel y x
  · simp
  · simp

end Display

/-- A sprite of `height` rows at `index`, within memory, and the coordinates to draw it at. -/
structure Drawing where
  index : UInt16
  px : UInt8
  py : UInt8
  height : Nibble
  fits : index.toNat + height ≤ 4096

/-- The pixels that a drawing toggles. -/
def Drawing.mask (g : Drawing) (m : Memory) : Display :=
  Sprite.mask m g.index.toNat (g.px.toNat % 64) (g.py.toNat % 32) g.height

namespace Machine

variable {m m' : Machine} {x y n : Nibble} {g : Drawing} {gs gs' : List Drawing}

/-! ## One drawing -/

/-- The pixels that `DXYN` toggles. -/
def spriteMask (m : Machine) (x y n : Nibble) : Display :=
  Sprite.mask m.memory m.index.toNat ((m.registers.get x).toNat % 64)
    ((m.registers.get y).toNat % 32) n

theorem spriteMask_congr (hmemory : m'.memory = m.memory) (hindex : m'.index = m.index)
    (hx : m'.registers.get x = m.registers.get x) (hy : m'.registers.get y = m.registers.get y) :
    m'.spriteMask x y n = m.spriteMask x y n := by
  rw [spriteMask, spriteMask, hmemory, hindex, hx, hy]

/-- Drawing toggles the mask, the flag being whether it meets a pixel that is on. -/
theorem Meets.draw (h : m.Meets (.draw x y n) m') (hfit : m.index.toNat + n ≤ 4096) :
    ∃ pc, m' =
      { m.withCanvas ⟨m.display.toggle (m.spriteMask x y n),
          m.display.overlaps (m.spriteMask x y n)⟩ with pc := pc } := by
  obtain ⟨pc, rfl⟩ := h.exists_pc (fault?_draw hfit)
  refine ⟨pc, ?_⟩
  rw [apply_draw_eq (m := { m with pc := pc }) hfit, plotSprite,
    Sprite.plotRows_eq_mask hfit (by omega)]
  rfl

/-- Display, memory and index register after drawing. -/
theorem Meets.display_of_draw (h : m.Meets (.draw x y n) m') (hfit : m.index.toNat + n ≤ 4096) :
    m'.display = m.display.toggle (m.spriteMask x y n) ∧ m'.memory = m.memory ∧
      m'.index = m.index := by
  obtain ⟨pc, rfl⟩ := h.draw hfit
  exact ⟨rfl, rfl, rfl⟩

/-- The flag after drawing. -/
theorem Meets.flag_iff (h : m.Meets (.draw x y n) m') (hfit : m.index.toNat + n ≤ 4096) :
    m'.registers.get 0xF = 1 ↔ m.display.overlaps (m.spriteMask x y n) = true := by
  obtain ⟨pc, rfl⟩ := h.draw hfit
  simp only [withCanvas, Registers.get_put_self]
  cases m.display.overlaps (m.spriteMask x y n)
  · simp
  · simp

/-- Drawing again toggles the same, if the coordinates are not in `VF`. -/
theorem Meets.spriteMask_eq (h : m.Meets (.draw x y n) m') (hfit : m.index.toNat + n ≤ 4096)
    (hx : x ≠ 0xF) (hy : y ≠ 0xF) : m'.spriteMask x y n = m.spriteMask x y n := by
  obtain ⟨pc, rfl⟩ := h.draw hfit
  exact spriteMask_congr rfl rfl (Registers.get_put_of_ne _ _ hx) (Registers.get_put_of_ne _ _ hy)

/-- Drawing the same twice restores the display, and the second flag tells whether some pixel
    of the mask was off. -/
theorem Meets.draw_again {m₁ m₂ : Machine} (h₁ : m.Meets (.draw x y n) m₁)
    (h₂ : m₁.Meets (.draw x y n) m₂) (hfit : m.index.toNat + n ≤ 4096) (hx : x ≠ 0xF)
    (hy : y ≠ 0xF) :
    m₂.display = m.display ∧
      (m₂.registers.get 0xF = 1 ↔
        ∃ row col, (m.spriteMask x y n).pixel row col = true ∧
          m.display.pixel row col = false) := by
  obtain ⟨hdisplay, -, hindex⟩ := h₁.display_of_draw hfit
  have hmask := h₁.spriteMask_eq hfit hx hy
  have hfit₁ : m₁.index.toNat + n ≤ 4096 := hindex ▸ hfit
  constructor
  · rw [(h₂.display_of_draw hfit₁).1, hmask, hdisplay, Display.toggle_toggle]
  · rw [h₂.flag_iff hfit₁, hmask, hdisplay, Display.overlaps_toggle_iff]

/-! ## Drawings in turn -/

/-- The machine is ready to make a drawing by `DXYN`: the index register points to the sprite,
    and `VX` and `VY`, neither of them `VF`, hold the coordinates. -/
structure Ready (m : Machine) (g : Drawing) (x y : Nibble) : Prop where
  index : m.index = g.index
  x_ne : x ≠ 0xF
  y_ne : y ≠ 0xF
  px : m.registers.get x = g.px
  py : m.registers.get y = g.py

/-- `m.Draws gs m'`: the machine `m` makes the drawings `gs` in turn and ends as `m'`.  Before
    each of them and at the end anything may happen that leaves memory and display alone. -/
inductive Draws : Machine → List Drawing → Machine → Prop
  | done {m m' : Machine} : m'.memory = m.memory → m'.display = m.display → m.Draws [] m'
  | draw {m m₁ m₂ m' : Machine} {g : Drawing} {gs : List Drawing} {x y : Nibble} :
      m₁.memory = m.memory → m₁.display = m.display → m₁.Ready g x y →
      m₁.Meets (.draw x y g.height) m₂ → m₂.Draws gs m' → m.Draws (g :: gs) m'

theorem Ready.spriteMask_eq (h : m.Ready g x y) : m.spriteMask x y g.height = g.mask m.memory := by
  rw [spriteMask, Drawing.mask, h.index, h.px, h.py]

/-- Any drawings can be made from any machine. -/
theorem exists_draws (m : Machine) (gs : List Drawing) : ∃ m', m.Draws gs m' := by
  induction gs generalizing m with
  | nil => exact ⟨m, .done rfl rfl⟩
  | cons g gs ih =>
    -- the coordinates go to the first two registers
    obtain ⟨m₁, hm₁⟩ : ∃ m₁ : Machine, m₁ =
        { m with index := g.index, registers := (m.registers.put 0 g.px).put 1 g.py } := ⟨_, rfl⟩
    have hready : m₁.Ready g 0 1 := by
      rw [hm₁]
      refine ⟨rfl, by decide, by decide, ?_, Registers.get_put_self _ _ _⟩
      exact (Registers.get_put_of_ne _ _ (by decide)).trans (Registers.get_put_self _ _ _)
    have hword : (UInt16.ofNat (Instruction.draw 0 1 g.height).encode).toNat =
        (Instruction.draw 0 1 g.height).encode :=
      UInt16.toNat_ofNat_of_lt' (Instruction.encode_lt _)
    obtain ⟨m', hrest⟩ := ih (m₁.execute (.ofNat (Instruction.draw 0 1 g.height).encode))
    exact ⟨m', .draw (by rw [hm₁]) (by rw [hm₁]) hready (.unchecked hword) hrest⟩

/-- **Drawings toggle their masks**, in their order. -/
theorem display_of_draws (h : m.Draws gs m') :
    m'.display = (gs.map fun g => g.mask m.memory).foldl Display.toggle m.display := by
  induction h with
  | done _ hdisplay => exact hdisplay
  | @draw m m₁ m₂ m' g gs x y hmemory hdisplay hready hmeets _ ih =>
    have hfit : m₁.index.toNat + g.height ≤ 4096 := hready.index ▸ g.fits
    obtain ⟨hdrawn, hsame, -⟩ := hmeets.display_of_draw hfit
    rw [ih, List.map_cons, List.foldl_cons, hdrawn, hready.spriteMask_eq, hdisplay, hsame, hmemory]

theorem display_of_perm {m₁ m₂ : Machine} (h₁ : m.Draws gs m₁) (h₂ : m.Draws gs' m₂)
    (hperm : gs.Perm gs') : m₁.display = m₂.display := by
  rw [display_of_draws h₁, display_of_draws h₂]
  exact (hperm.map _).foldl_eq _

/-- A drawing made twice is not seen. -/
theorem display_of_twice {m₁ m₂ : Machine} {gs₁ gs₂ gs₃ : List Drawing}
    (h₁ : m.Draws (gs₁ ++ g :: gs₂ ++ g :: gs₃) m₁) (h₂ : m.Draws (gs₁ ++ gs₂ ++ gs₃) m₂) :
    m₁.display = m₂.display := by
  -- both times the drawing can be made first
  obtain ⟨m₃, h₃⟩ := m.exists_draws (g :: g :: (gs₁ ++ gs₂ ++ gs₃))
  have hperm : (gs₁ ++ g :: gs₂ ++ g :: gs₃).Perm (g :: g :: (gs₁ ++ gs₂ ++ gs₃)) := by
    refine List.perm_middle.trans (.cons g ?_)
    rw [List.append_assoc, List.append_assoc, List.cons_append]
    exact List.perm_middle
  calc m₁.display
      = m₃.display := display_of_perm h₁ h₃ hperm
    _ = m₂.display := by
      rw [display_of_draws h₃, display_of_draws h₂, List.map_cons, List.map_cons, List.foldl_cons,
        List.foldl_cons, Display.toggle_toggle]

/-- **Drawings commute and cancel.**  From every machine any drawings can be made.  The display
    at the end does not depend on their order, and a drawing that is made twice is not seen in
    it.  If the same word `DXYN`, with neither `X` nor `Y` the flag, is met twice in a row, the
    display is the one from before; the first flag is one iff some pixel under a set bit of the
    sprite was on, the second iff some such pixel was off. -/
theorem draws_commute_and_cancel :
    (∀ (m : Machine) gs, ∃ m', m.Draws gs m') ∧
    (∀ (m : Machine) gs gs' m₁ m₂, m.Draws gs m₁ → m.Draws gs' m₂ → gs.Perm gs' →
      m₁.display = m₂.display) ∧
    (∀ (m : Machine) gs₁ g gs₂ gs₃ m₁ m₂, m.Draws (gs₁ ++ g :: gs₂ ++ g :: gs₃) m₁ →
      m.Draws (gs₁ ++ gs₂ ++ gs₃) m₂ → m₁.display = m₂.display) ∧
    ∀ (m : Machine) (x y n : Nibble), x ≠ 0xF → y ≠ 0xF → m.index.toNat + n ≤ 4096 →
      ∀ m₁ m₂, m.Meets (.draw x y n) m₁ → m₁.Meets (.draw x y n) m₂ →
        let covered := Sprite.Covers m.memory m.index.toNat (m.registers.get x).toNat
          (m.registers.get y).toNat n
        m₂.display = m.display ∧
        (m₁.registers.get 0xF = 1 ↔ ∃ row col, covered row col ∧ m.display.pixel row col = true) ∧
        (m₂.registers.get 0xF = 1 ↔
          ∃ row col, covered row col ∧ m.display.pixel row col = false) := by
  refine ⟨exists_draws, fun m gs gs' m₁ m₂ => display_of_perm,
    fun m gs₁ g gs₂ gs₃ m₁ m₂ => display_of_twice, ?_⟩
  intro m x y n hx hy hfit m₁ m₂ h₁ h₂ covered
  have hcovered : ∀ row col, (m.spriteMask x y n).pixel row col = true ↔ covered row col :=
    fun row col => Sprite.pixel_mask_iff hfit (by omega)
  obtain ⟨hrestored, hsecond⟩ := h₁.draw_again h₂ hfit hx hy
  refine ⟨hrestored, ?_, ?_⟩
  · rw [h₁.flag_iff hfit, Display.overlaps_iff]
    refine exists_congr fun row => exists_congr fun col => ?_
    rw [hcovered, and_comm]
  · rw [hsecond]
    refine exists_congr fun row => exists_congr fun col => ?_
    rw [hcovered]

/-- Two digits of the font that overlap, one of them over a corner and drawn twice, and a digit
    drawn twice in a row on a display that is blank. -/
theorem draws_commute_and_cancel_digits :
    ∃ (m m₁ m₂ m₃ : Machine) (g g' : Drawing), g.mask m.memory ≠ g'.mask m.memory ∧
      m.Draws [g, g', g] m₁ ∧ m.Draws [g', g, g] m₂ ∧ m.Draws [g'] m₃ ∧
      m₁.display = m₂.display ∧ m₁.display = m₃.display ∧
      ((m.execute 0xD015).execute 0xD015).display = m.display ∧
      ((m.execute 0xD015).execute 0xD015).registers.get 0xF = 1 := by
  obtain ⟨m, hm⟩ : ∃ m : Machine, m = powerOn ⟨0, 0⟩ := ⟨_, rfl⟩
  obtain ⟨g, hg⟩ : ∃ g : Drawing, g = ⟨0, 62, 30, 5, by decide⟩ := ⟨_, rfl⟩
  obtain ⟨g', hg'⟩ : ∃ g' : Drawing, g' = ⟨5, 0, 0, 5, by decide⟩ := ⟨_, rfl⟩
  obtain ⟨hexists, horder, htwice, hagain⟩ := draws_commute_and_cancel
  obtain ⟨m₁, h₁⟩ := hexists m [g, g', g]
  obtain ⟨m₂, h₂⟩ := hexists m [g', g, g]
  obtain ⟨m₃, h₃⟩ := hexists m [g']
  have hfit : m.index.toNat + (5 : Nibble) ≤ 4096 := by rw [hm]; decide
  have hpair := hagain m 0 1 5 (by decide) (by decide) hfit _ _ (.unchecked (w := 0xD015) rfl)
    (.unchecked (w := 0xD015) rfl)
  refine ⟨m, m₁, m₂, m₃, g, g', ?_, h₁, h₂, h₃, ?_, ?_, hpair.1, ?_⟩
  · rw [hm, hg, hg']
    decide +kernel
  · exact horder m _ _ m₁ m₂ h₁ h₂ (.swap _ _ _)
  · exact htwice m [] g [g'] [] m₁ m₃ h₁ h₃
  · -- the digit has set bits, and all pixels were off
    refine hpair.2.2.2 ⟨0, 0, ⟨0, 0, by decide, by decide, ?_, ?_, ?_⟩, ?_⟩
    · rw [hm]; decide +kernel
    · rw [hm]; decide +kernel
    · rw [hm]; decide +kernel
    · rw [hm]; decide +kernel

end Machine

end Chip8
