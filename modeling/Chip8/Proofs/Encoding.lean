/-
  CHIP-8 machine — the words of the instructions.

  `Instruction.encode` writes an instruction as a word, in one of three
  formats: a family with an address, with a register and a byte, or with two
  registers and a nibble.

  * `decode?_eq_some_iff`: reading is the inverse of writing, so a word has at
    most one instruction and an instruction exactly one word;
  * `isSome_decode?_iff`: the words that are read are those of the documented
    patterns (`Documented`), which are stated on the number of the word alone;
  * `decodeLenient?_eq_none_iff`: in the families whose unknown words the
    unchecked executor ignores, it ignores exactly the undocumented ones.
-/
import Chip8.Execute
import Mathlib.Tactic

namespace Chip8

/-! ## Formats -/

namespace Fields

/-- The word of a family with an address. -/
def withAddress (family : ℕ) (nnn : Address) : ℕ := 0x1000 * family + nnn

/-- The word of a family with a register and a byte. -/
def withByte (family : ℕ) (x : Nibble) (kk : UInt8) : ℕ :=
  0x1000 * family + 0x100 * x + kk.toNat

/-- The word of a family with two registers and a nibble. -/
def withNibbles (family : ℕ) (x y n : Nibble) : ℕ :=
  0x1000 * family + 0x100 * x + 0x10 * y + n

/-! The digits of a word of each format. -/

section
variable (k : ℕ) (x y n : Nibble) (kk : UInt8) (nnn : Address)

@[simp] theorem withAddress_div : withAddress k nnn / 0x1000 = k := by
  unfold withAddress; omega

@[simp] theorem withByte_div : withByte k x kk / 0x1000 = k := by
  have := kk.toNat_lt
  unfold withByte; omega

@[simp] theorem withByte_div_mod : withByte k x kk / 0x100 % 0x10 = x := by
  have := kk.toNat_lt
  unfold withByte; omega

@[simp] theorem withByte_mod : withByte k x kk % 0x100 = kk.toNat := by
  have := kk.toNat_lt
  unfold withByte; omega

@[simp] theorem withNibbles_div : withNibbles k x y n / 0x1000 = k := by
  unfold withNibbles; omega

@[simp] theorem withNibbles_mod : withNibbles k x y n % 0x10 = n := by
  unfold withNibbles; omega

end

/-! The fields of a word, as numbers. -/

theorem family_ofWord (w : UInt16) : (ofWord w).family.val = w.toNat / 0x1000 := by
  have := w.toNat_lt
  simp only [ofWord, Fin.val_ofNat]
  omega

theorem x_ofWord (w : UInt16) : (ofWord w).x.val = w.toNat / 0x100 % 16 := rfl

theorem y_ofWord (w : UInt16) : (ofWord w).y.val = w.toNat / 0x10 % 16 := rfl

theorem n_ofWord (w : UInt16) : (ofWord w).n.val = w.toNat % 16 := rfl

theorem kk_ofWord (w : UInt16) : (ofWord w).kk.toNat = w.toNat % 0x100 := UInt8.toNat_ofNat'

theorem nnn_ofWord (w : UInt16) : (ofWord w).nnn.val = w.toNat % 0x1000 := rfl

/-! A word is put together again from the fields of each format. -/

theorem withAddress_ofWord (w : UInt16) :
    withAddress (ofWord w).family (ofWord w).nnn = w.toNat := by
  rw [withAddress, family_ofWord, nnn_ofWord]
  omega

theorem withByte_ofWord (w : UInt16) :
    withByte (ofWord w).family (ofWord w).x (ofWord w).kk = w.toNat := by
  rw [withByte, family_ofWord, x_ofWord, kk_ofWord]
  omega

theorem withNibbles_ofWord (w : UInt16) :
    withNibbles (ofWord w).family (ofWord w).x (ofWord w).y (ofWord w).n = w.toNat := by
  rw [withNibbles, family_ofWord, x_ofWord, y_ofWord, n_ofWord]
  omega

/-! The fields of a format are read off its words. -/

variable {w : UInt16} {k : ℕ}

theorem ofWord_withAddress {nnn : Address} (h : w.toNat = withAddress k nnn) :
    (ofWord w).family.val = k ∧ (ofWord w).nnn = nnn := by
  unfold withAddress at h
  refine ⟨?_, Fin.ext ?_⟩
  · rw [family_ofWord]; omega
  · rw [nnn_ofWord]; omega

theorem ofWord_withByte {x : Nibble} {kk : UInt8} (h : w.toNat = withByte k x kk) :
    (ofWord w).family.val = k ∧ (ofWord w).x = x ∧ (ofWord w).kk = kk := by
  have := kk.toNat_lt
  unfold withByte at h
  refine ⟨?_, Fin.ext ?_, UInt8.toNat_inj.1 ?_⟩
  · rw [family_ofWord]; omega
  · rw [x_ofWord]; omega
  · rw [kk_ofWord]; omega

theorem ofWord_withNibbles {x y n : Nibble} (h : w.toNat = withNibbles k x y n) :
    (ofWord w).family.val = k ∧ (ofWord w).x = x ∧ (ofWord w).y = y ∧ (ofWord w).n = n := by
  unfold withNibbles at h
  refine ⟨?_, Fin.ext ?_, Fin.ext ?_, Fin.ext ?_⟩
  · rw [family_ofWord]; omega
  · rw [x_ofWord]; omega
  · rw [y_ofWord]; omega
  · rw [n_ofWord]; omega

end Fields

/-! ## Reading and writing instructions -/

/-- The last nibble of the words of an operation. -/
def AluOp.nibble : AluOp → Nibble
  | set => 0x0
  | or => 0x1
  | and => 0x2
  | xor => 0x3
  | add => 0x4
  | sub => 0x5
  | shiftRight => 0x6
  | subReverse => 0x7
  | shiftLeft => 0xE

theorem AluOp.ofNibble?_eq_some_iff {n : Nibble} {op : AluOp} :
    ofNibble? n = some op ↔ n = op.nibble := by
  revert n
  cases op <;> decide

namespace Instruction

open Fields

/-- The word of an instruction. -/
def encode : Instruction → ℕ
  | clear => 0x00E0
  | ret => 0x00EE
  | jump nnn => withAddress 0x1 nnn
  | call nnn => withAddress 0x2 nnn
  | skip (.isByte x kk) => withByte 0x3 x kk
  | skip (.notByte x kk) => withByte 0x4 x kk
  | skip (.isRegister x y) => withNibbles 0x5 x y 0
  | setByte x kk => withByte 0x6 x kk
  | addByte x kk => withByte 0x7 x kk
  | alu op x y => withNibbles 0x8 x y op.nibble
  | skip (.notRegister x y) => withNibbles 0x9 x y 0
  | setIndex nnn => withAddress 0xA nnn
  | jumpOffset nnn => withAddress 0xB nnn
  | random x kk => withByte 0xC x kk
  | draw x y n => withNibbles 0xD x y n
  | skip (.keyDown x) => withByte 0xE x 0x9E
  | skip (.keyUp x) => withByte 0xE x 0xA1
  | readDelay x => withByte 0xF x 0x07
  | waitKey x => withByte 0xF x 0x0A
  | setDelay x => withByte 0xF x 0x15
  | setSound x => withByte 0xF x 0x18
  | addIndex x => withByte 0xF x 0x1E
  | glyph x => withByte 0xF x 0x29
  | decimal x => withByte 0xF x 0x33
  | store x => withByte 0xF x 0x55
  | load x => withByte 0xF x 0x65

theorem encode_of_decodeMisc? {x : Nibble} {kk : UInt8} {i : Instruction}
    (h : decodeMisc? x kk = some i) : i.encode = withByte 0xF x kk := by
  unfold decodeMisc? at h
  split at h
  case h_10 => cases h
  all_goals
    next hk =>
      cases h
      rw [encode, withByte, withByte, hk]
      rfl

/-- What is read as an instruction is the word of that instruction. -/
theorem encode_of_decode? {w : UInt16} {i : Instruction} (h : decode? w = some i) :
    i.encode = w.toNat := by
  have ha := withAddress_ofWord w
  have hb := withByte_ofWord w
  have hn := withNibbles_ofWord w
  simp only [decode?] at h
  generalize (Fields.ofWord w).family = f at h ha hb hn
  fin_cases f <;> simp only at h
  case «0» =>
    split_ifs at h with h0 h1
    · cases h; rw [h0]; rfl
    · cases h; rw [h1]; rfl
  case «5» | «9» =>
    split_ifs at h with h0
    cases h
    rw [← hn, h0]
    rfl
  case «8» =>
    obtain ⟨op, hop, rfl⟩ := Option.map_eq_some_iff.1 h
    rw [← hn, AluOp.ofNibble?_eq_some_iff.1 hop]
    rfl
  case «14» =>
    split_ifs at h with h0 h0
    all_goals
      cases h
      rw [← hb, h0]
      rfl
  case «15» =>
    rw [encode_of_decodeMisc? h, ← hb]
  case «1» | «2» | «10» | «11» =>
    cases h
    exact ha
  case «3» | «4» | «6» | «7» | «12» =>
    cases h
    exact hb
  case «13» =>
    cases h
    exact hn

/-- The word of an instruction is read as that instruction. -/
theorem decode?_of_encode {w : UInt16} {i : Instruction} (h : w.toNat = i.encode) :
    decode? w = some i := by
  match i with
  | clear => rw [show w = 0x00E0 from UInt16.toNat_inj.1 h]; rfl
  | ret => rw [show w = 0x00EE from UInt16.toNat_inj.1 h]; rfl
  | jump nnn | call nnn | setIndex nnn | jumpOffset nnn =>
    obtain ⟨hf, ha⟩ := ofWord_withAddress h
    simp only [decode?, hf, ha]
  | skip (.isByte x kk) | skip (.notByte x kk) | setByte x kk | addByte x kk | random x kk =>
    obtain ⟨hf, hx, hk⟩ := ofWord_withByte h
    simp only [decode?, hf, hx, hk]
  | skip (.keyDown x) | skip (.keyUp x) =>
    obtain ⟨hf, hx, hk⟩ := ofWord_withByte h
    simp only [decode?, hf, hx, hk]
    rfl
  | skip (.isRegister x y) | skip (.notRegister x y) =>
    obtain ⟨hf, hx, hy, hn⟩ := ofWord_withNibbles h
    simp only [decode?, hf, hx, hy, hn, if_true]
  | alu op x y =>
    obtain ⟨hf, hx, hy, hn⟩ := ofWord_withNibbles h
    simp only [decode?, hf, hx, hy]
    rw [AluOp.ofNibble?_eq_some_iff.2 hn, Option.map_some]
  | draw x y n =>
    obtain ⟨hf, hx, hy, hn⟩ := ofWord_withNibbles h
    simp only [decode?, hf, hx, hy, hn]
  | readDelay x | waitKey x | setDelay x | setSound x | addIndex x | glyph x | decimal x
  | store x | load x =>
    obtain ⟨hf, hx, hk⟩ := ofWord_withByte h
    simp only [decode?, hf, hx, hk]
    rfl

/-- **Reading is the inverse of writing.** -/
theorem decode?_eq_some_iff {w : UInt16} {i : Instruction} :
    decode? w = some i ↔ w.toNat = i.encode :=
  ⟨fun h => (encode_of_decode? h).symm, decode?_of_encode⟩

theorem encode_lt (i : Instruction) : i.encode < 0x10000 := by
  cases i with
  | skip c =>
    cases c with
    | isByte x kk | notByte x kk =>
      have := kk.toNat_lt
      simp only [encode, withByte]
      omega
    | isRegister | notRegister => simp only [encode, withNibbles]; omega
    | keyDown | keyUp => simp only [encode, withByte, UInt8.reduceToNat]; omega
  | setByte x kk | addByte x kk | random x kk =>
    have := kk.toNat_lt
    simp only [encode, withByte]
    omega
  | clear | ret => simp only [encode]; omega
  | jump | call | setIndex | jumpOffset => simp only [encode, withAddress]; omega
  | alu | draw => simp only [encode, withNibbles]; omega
  | _ => simp only [encode, withByte, UInt8.reduceToNat]; omega

/-- Different instructions have different words. -/
theorem encode_inj {i j : Instruction} : i.encode = j.encode ↔ i = j := by
  refine ⟨fun h => ?_, fun h => h ▸ rfl⟩
  have hw : (UInt16.ofNat i.encode).toNat = i.encode :=
    UInt16.toNat_ofNat_of_lt' i.encode_lt
  have := decode?_of_encode hw
  rw [decode?_of_encode (hw.trans h)] at this
  exact (Option.some.inj this).symm

/-! ## Documented patterns -/

end Instruction

/-- The documented patterns, on the number of a word: all words but those of
    family 0 other than `00E0` and `00EE`, of families 5 and 9 that do not end
    in 0, and of families 8, E and F with an unknown end. -/
def Documented (w : ℕ) : Prop :=
  match w / 0x1000 with
  | 0x0 => w = 0x00E0 ∨ w = 0x00EE
  | 0x5 | 0x9 => w % 0x10 = 0
  | 0x8 => w % 0x10 ∈ [0x0, 0x1, 0x2, 0x3, 0x4, 0x5, 0x6, 0x7, 0xE]
  | 0xE => w % 0x100 ∈ [0x9E, 0xA1]
  | 0xF => w % 0x100 ∈ [0x07, 0x0A, 0x15, 0x18, 0x1E, 0x29, 0x33, 0x55, 0x65]
  | _ => True

namespace Instruction

open Fields

theorem isSome_decodeMisc?_iff (x : Nibble) (kk : UInt8) :
    (decodeMisc? x kk).isSome ↔
      kk.toNat ∈ [0x07, 0x0A, 0x15, 0x18, 0x1E, 0x29, 0x33, 0x55, 0x65] := by
  unfold decodeMisc?
  split
  case h_10 => simp_all
  all_goals
    next hk => rw [hk]; exact iff_of_true rfl (by decide)

/-- **The words with an instruction are the documented ones.** -/
theorem isSome_decode?_iff (w : UInt16) : (decode? w).isSome ↔ Documented w.toNat := by
  have hf := family_ofWord w
  have hn := n_ofWord w
  have hk := kk_ofWord w
  simp only [decode?, Documented, ← hf, ← hn, ← hk]
  generalize (Fields.ofWord w).family = f
  fin_cases f <;> simp only
  case «0» =>
    rw [show w.toNat = 0x00E0 ↔ w = 0x00E0 from @UInt16.toNat_inj w 0x00E0,
      show w.toNat = 0x00EE ↔ w = 0x00EE from @UInt16.toNat_inj w 0x00EE]
    split_ifs with h0 h1 <;> simp [*]
  case «5» | «9» =>
    rw [Fin.val_eq_zero_iff]
    split_ifs with h <;> simp [h]
  case «8» =>
    rw [Option.isSome_map]
    generalize (Fields.ofWord w).n = n
    revert n
    decide
  case «14» =>
    generalize (Fields.ofWord w).kk = kk
    rw [List.mem_pair, show kk.toNat = 0x9E ↔ kk = 0x9E from @UInt8.toNat_inj kk 0x9E,
      show kk.toNat = 0xA1 ↔ kk = 0xA1 from @UInt8.toNat_inj kk 0xA1]
    split_ifs with h0 h1 <;> simp [*]
  case «15» => exact isSome_decodeMisc?_iff _ _
  all_goals exact iff_of_true rfl trivial

/-! ## The unchecked executor -/

/-- The families whose unknown words the unchecked executor ignores. -/
def IgnoresUnknown (w : ℕ) : Prop := w / 0x1000 ∈ [0x0, 0x8, 0xF]

theorem normalize_eq_self {w : UInt16} (h : IgnoresUnknown w.toNat) : normalize w = w := by
  have hf := family_ofWord w
  unfold normalize
  simp only [IgnoresUnknown, ← hf, List.mem_cons, List.not_mem_nil, or_false] at h
  rcases h with h | h | h <;> simp only [h]

/-- The word of an instruction is read as that instruction without checks as well. -/
theorem decodeLenient?_of_encode {w : UInt16} {i : Instruction} (h : w.toNat = i.encode) :
    decodeLenient? w = some i := by
  have hself : normalize w = w := by
    unfold normalize
    match i with
    | clear => rw [show w = 0x00E0 from UInt16.toNat_inj.1 h]; rfl
    | ret => rw [show w = 0x00EE from UInt16.toNat_inj.1 h]; rfl
    | skip (.isRegister x y) | skip (.notRegister x y) =>
      obtain ⟨hf, -, -, hn⟩ := ofWord_withNibbles h
      simp [hf, hn]
    | skip (.keyDown x) | skip (.keyUp x) =>
      obtain ⟨hf, -, hk⟩ := ofWord_withByte h
      simp [hf, hk]
    | jump nnn | call nnn | setIndex nnn | jumpOffset nnn =>
      obtain ⟨hf, -⟩ := ofWord_withAddress h
      simp only [hf]
    | alu op x y | draw x y n =>
      obtain ⟨hf, -⟩ := ofWord_withNibbles h
      simp only [hf]
    | skip (.isByte x kk) | skip (.notByte x kk) | setByte x kk | addByte x kk | random x kk
    | readDelay x | waitKey x | setDelay x | setSound x | addIndex x | glyph x | decimal x
    | store x | load x =>
      obtain ⟨hf, -⟩ := ofWord_withByte h
      simp only [hf]
  rw [decodeLenient?, hself, decode?_of_encode h]

theorem decodeLenient?_eq_none_iff {w : UInt16} (h : IgnoresUnknown w.toNat) :
    decodeLenient? w = none ↔ ¬ Documented w.toNat := by
  rw [decodeLenient?, normalize_eq_self h, ← isSome_decode?_iff, Option.not_isSome_iff_eq_none]

end Instruction

end Chip8
