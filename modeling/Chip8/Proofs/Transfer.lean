/-
  CHIP-8 machine — what moves between memory, registers and display.

  A sprite and a block of registers can also be moved in windows of a fixed size: 32
  rows, or sixteen bytes, are read at once, whether they are needed or not and with the
  last byte of memory standing for those past its end, and a mask cuts out what counts.

  * `getElem_writeBytes`: memory after several bytes have been written;
  * `pixel_mask`: the pixels of a sprite, each by its column and row relative to it;
  * `mask_eq_cut`, `ofFn_eq_fill`, `writeBytes_cover`: moving whole windows comes to the
    same, whatever a window holds where its mask hides it.
-/
import Chip8.Execute
import Mathlib.Tactic

namespace Chip8

/-! ## Bytes in memory -/

namespace Memory

theorem getElem_write (m : Memory) (a : ℕ) (b : UInt8) {i : ℕ} (hi : i < 4096) :
    (m.write a b)[i] = if a = i then b else m[i] :=
  Vector.getElem_setIfInBounds hi

/-- Bytes written one after another. -/
theorem getElem_writeBytes (m : Memory) (a : ℕ) (bs : List UInt8) {i : ℕ} (hi : i < 4096) :
    (m.writeBytes a bs)[i] = if a ≤ i then bs[i - a]?.getD m[i] else m[i] := by
  induction bs generalizing m a with
  | nil => simp [writeBytes]
  | cons b bs ih =>
    rw [writeBytes, ih, getElem_write m a b hi]
    rcases lt_trichotomy a i with hlt | rfl | hgt
    · have hsub : i - a = i - (a + 1) + 1 := by omega
      rw [if_pos (by omega), if_neg (by omega), if_pos (by omega), hsub, List.getElem?_cons_succ]
    · simp
    · rw [if_neg (by omega), if_neg (by omega), if_neg (by omega)]

/-- Where no byte is written memory stays as it was. -/
theorem getElem_writeBytes_of_notMem (m : Memory) {a : ℕ} {bs : List UInt8} {i : ℕ} (hi : i < 4096)
    (h : i ∉ Set.Ico a (a + bs.length)) : (m.writeBytes a bs)[i] = m[i] := by
  rw [getElem_writeBytes m a bs hi]
  split_ifs with ha
  · have hlen : bs.length ≤ i - a := by
      by_contra hlt
      exact h ⟨ha, by omega⟩
    rw [List.getElem?_eq_none hlen, Option.getD_none]
  · rfl

/-- The `n` bytes from `a` on. -/
def window (m : Memory) (a n : ℕ) : Vector UInt8 n := Vector.ofFn fun i => m.read (a + i)

theorem getElem_window (m : Memory) (a : ℕ) {n i : ℕ} (hi : i < n) :
    (m.window a n)[i] = m.read (a + i) :=
  Vector.getElem_ofFn hi

end Memory

/-! ## Pixels of a sprite -/

theorem Display.ext_pixel {d d' : Display} (h : ∀ y x, d.pixel y x = d'.pixel y x) : d = d' := by
  refine Vector.ext fun y hy => BitVec.eq_of_getMsbD_eq fun x hx => ?_
  exact h ⟨y, hy⟩ ⟨x, hx⟩

theorem Display.toggle_inj {d mask mask' : Display} :
    d.toggle mask = d.toggle mask' ↔ mask = mask' := by
  refine ⟨fun h => ext_pixel fun y x => ?_, fun h => h ▸ rfl⟩
  have hpixel := congrArg (fun d => pixel d y x) h
  simpa only [pixel_toggle, Bool.xor_right_inj] using hpixel

namespace Sprite

/-- How far right of the column `px` a column lies, round the edge. -/
def columnFrom (px : ℕ) (x : Fin 64) : Fin 64 :=
  ⟨(x + 64 - px % 64) % 64, Nat.mod_lt _ (by decide)⟩

/-- How far below the row `py` a row lies, round the edge. -/
def rowFrom (py : ℕ) (y : Fin 32) : Fin 32 :=
  ⟨(y + 32 - py % 32) % 32, Nat.mod_lt _ (by decide)⟩

theorem getMsbD_row (b : UInt8) (px : ℕ) (x : Fin 64) :
    (row b px).getMsbD x = b.toBitVec.getMsbD (columnFrom px x) := by
  have hx := x.isLt
  have hp : px % 64 < 64 := Nat.mod_lt px (by decide)
  have hcol : (columnFrom px x).val =
      if x.val < px % 64 then (64 + x - px % 64) % 64 else x - px % 64 := by
    simp only [columnFrom]
    split_ifs <;> omega
  have hshift : ∀ c, ((b.toBitVec.setWidth 64) <<< 56).getMsbD c = b.toBitVec.getMsbD c := by
    intro c
    have hc : c + 56 + 8 - 64 = c := by omega
    have hle : 64 - 8 ≤ c + 56 := by omega
    rw [BitVec.getMsbD_shiftLeft, BitVec.getMsbD_setWidth, hc, decide_eq_true hle, Bool.true_and]
  rw [row, BitVec.getMsbD_rotateRight, decide_eq_true hx, Bool.true_and, hshift, hshift, hcol]
  split_ifs
  · rfl
  · rfl

/-- A pixel of a sprite: the bit of its row that lies in its column. -/
theorem pixel_mask (m : Memory) (index px py height : ℕ) (y : Fin 32) (x : Fin 64) :
    (mask m index px py height).pixel y x =
      (decide ((rowFrom py y).val < height) &&
        (m.read (index + rowFrom py y)).toBitVec.getMsbD (columnFrom px x)) := by
  have hrow : (y.val + 32 - py % 32) % 32 = (rowFrom py y).val := rfl
  simp only [mask, Display.pixel, Fin.getElem_fin, Vector.getElem_ofFn, hrow]
  split_ifs with h
  · rw [getMsbD_row, decide_eq_true h, Bool.true_and]
  · rw [decide_eq_false h, Bool.false_and]
    exact BitVec.getMsbD_zero

/-- What a mask of eight columns and `height` rows cuts out of 32 rows. -/
def cut (rows : Vector UInt8 32) (px py height : ℕ) : Display :=
  Display.ofPixels fun y x =>
    decide ((columnFrom px x).val < width) && decide ((rowFrom py y).val < height) &&
      (rows.get (rowFrom py y)).toBitVec.getMsbD (columnFrom px x)

/-- A sprite can be cut out of any 32 rows of which the first are its own. -/
theorem mask_eq_cut {m : Memory} {index height : ℕ} {rows : Vector UInt8 32}
    (h : ∀ r : Fin 32, r.val < height → rows.get r = m.read (index + r)) (px py : ℕ) :
    mask m index px py height = cut rows px py height := by
  refine Display.ext_pixel fun y x => ?_
  rw [pixel_mask, cut, Display.pixel_ofPixels]
  by_cases hrow : (rowFrom py y).val < height
  · rw [h _ hrow]
    by_cases hcol : (columnFrom px x).val < width
    · rw [decide_eq_true hcol, Bool.true_and]
    · have hout : (m.read (index + rowFrom py y)).toBitVec.getMsbD (columnFrom px x) = false :=
        BitVec.getMsbD_of_ge _ _ (not_lt.1 hcol)
      rw [hout, Bool.and_false, Bool.and_false]
  · rw [decide_eq_false hrow, Bool.and_false, Bool.false_and, Bool.false_and]

theorem exists_rowFrom (py : ℕ) (r : Fin 32) : ∃ y, rowFrom py y = r := by
  refine ⟨.ofNat 32 (py + r), Fin.ext ?_⟩
  simp only [rowFrom, Fin.val_ofNat]
  omega

theorem exists_columnFrom (px : ℕ) (c : Fin 64) : ∃ x, columnFrom px x = c := by
  refine ⟨.ofNat 64 (px + c), Fin.ext ?_⟩
  simp only [columnFrom, Fin.val_ofNat]
  omega

/-- A sprite shows every bit of its bytes. -/
theorem read_eq_of_mask_eq {m m' : Memory} {index px py height : ℕ}
    (h : mask m index px py height = mask m' index px py height) {r : Fin 32}
    (hr : r.val < height) : m.read (index + r) = m'.read (index + r) := by
  obtain ⟨y, rfl⟩ := exists_rowFrom py r
  refine UInt8.toBitVec_inj.1 (BitVec.eq_of_getMsbD_eq fun c hc => ?_)
  obtain ⟨x, hx⟩ := exists_columnFrom px ⟨c, hc.trans (by decide)⟩
  have hpixel := congrArg (fun d => Display.pixel d y x) h
  simp only [pixel_mask, decide_eq_true hr, Bool.true_and, hx] at hpixel
  exact hpixel

end Sprite

/-! ## Registers, one by one and in blocks -/

namespace Registers

variable (v : Registers) (x : Nibble)

@[simp] theorem get_put_self (b : UInt8) : (v.put x b).get x = b := Vector.getElem_set_self x.lt

theorem get_put_of_ne {x z : Nibble} (b : UInt8) (h : z ≠ x) : (v.put x b).get z = v.get z :=
  Vector.getElem_set_ne x.lt z.lt fun heq => h (Fin.ext heq.symm)

/-- The registers with `V0` to `VX` taken from sixteen bytes. -/
def fill (bytes : Vector UInt8 16) : Registers :=
  Vector.ofFn fun i => if i ≤ x then bytes.get i else v.get i

/-- Sixteen bytes with `V0` to `VX` laid over the first of them. -/
def cover (bytes : Vector UInt8 16) : Vector UInt8 16 :=
  Vector.ofFn fun i => if i ≤ x then v.get i else bytes.get i

/-- Registers can be filled from any sixteen bytes of which the first are the right ones. -/
theorem ofFn_eq_fill {bytes : Vector UInt8 16} {f : Nibble → UInt8}
    (h : ∀ i ≤ x, bytes.get i = f i) :
    Vector.ofFn (fun i => if i ≤ x then f i else v.get i) = v.fill x bytes := by
  refine congrArg Vector.ofFn (funext fun i => ?_)
  by_cases hi : i ≤ x
  · rw [if_pos hi, if_pos hi, h i hi]
  · rw [if_neg hi, if_neg hi]

theorem getElem?_cover (bytes : Vector UInt8 16) {j : ℕ} (hj : j < 16) :
    (v.cover x bytes).toList[j]? = some (if j ≤ x.val then v[j] else bytes[j]) := by
  have hlen : j < (v.cover x bytes).toList.length := by rw [Vector.length_toList]; exact hj
  rw [List.getElem?_eq_getElem hlen, Vector.getElem_toList]
  simp only [cover, Vector.getElem_ofFn]
  rfl

/-- Registers can be stored by writing back what was read behind them. -/
theorem writeBytes_cover (m : Memory) (a : ℕ) :
    m.writeBytes a (v.cover x (m.window a 16)).toList =
      m.writeBytes a (v.toList.take (x + 1)) := by
  refine Vector.ext fun i hi => ?_
  rw [Memory.getElem_writeBytes _ _ _ hi, Memory.getElem_writeBytes _ _ _ hi, List.getElem?_take]
  split_ifs with ha hx
  · have h16 : i - a < 16 := by omega
    rw [getElem?_cover v x _ h16, if_pos (by omega)]
    simp [h16]
  · by_cases h16 : i - a < 16
    · rw [getElem?_cover v x _ h16, if_neg (by omega), Memory.getElem_window,
        Nat.add_sub_cancel' ha, Memory.read_of_lt _ hi]
      rfl
    · simp [h16]
  · rfl

end Registers

end Chip8
