/-
  Storage — numerals are no names.

  A text in an array of integers is read as a numeral, and a text that names a type asks for
  that type.  No text does both: codes and names have a character that no numeral has, and in
  a list of names the digits of a numeral are repetitions of nothing.

  * `Text.numeral_range`: the characters of numerals;
  * `Text.numeral_of_int?`: a text that writes an integer has no others, and has a digit;
  * `Numeric.single?_of_numeral`, `Numeric.readList_of_numeral`: what is left of it as a name;
  * `Numeric.named_of_int?`: it names no type.
-/
import Chip8.Storage.ElementName
import Mathlib

namespace Chip8

/-! ## The characters of numerals -/

namespace Text

/-- A character of a numeral, or beside one. -/
def isNumeral (c : Char) : Bool :=
  isBlank c || c = '+' || c = '-' || c = '_' || (digitValue? c).isSome

theorem digit_range {c : Char} (h : (digitValue? c).isSome) :
    (0x30 ≤ c.toNat ∧ c.toNat ≤ 0x39) ∨ 0x660 ≤ c.toNat := by
  have hzeros : ∀ z ∈ zeros, z = 0x30 ∨ 0x660 ≤ z := by decide
  rw [digitValue?, Option.isSome_map, List.find?_isSome] at h
  obtain ⟨z, hz, hc⟩ := h
  rw [Bool.and_eq_true, decide_eq_true_eq, decide_eq_true_eq] at hc
  have := hzeros z hz
  omega

/-- Of the ASCII characters, only digits, signs, underscores and blanks belong to numerals. -/
theorem numeral_range {c : Char} (h : isNumeral c) :
    c.toNat = 0x2B ∨ c.toNat = 0x2D ∨ c.toNat = 0x5F ∨ (9 ≤ c.toNat ∧ c.toNat ≤ 0x20) ∨
      (0x30 ≤ c.toNat ∧ c.toNat ≤ 0x39) ∨ 0x85 ≤ c.toNat := by
  simp only [isNumeral, Bool.or_eq_true, decide_eq_true_eq] at h
  rcases h with (((h | rfl) | rfl) | rfl) | h
  · simp only [isBlank, Bool.or_eq_true, Bool.and_eq_true, decide_eq_true_eq, beq_iff_eq] at h
    omega
  · decide
  · decide
  · decide
  · have := digit_range h
    omega

theorem ne_of_numeral {c d : Char} (hc : isNumeral c) (hd : isNumeral d = false) : c ≠ d := by
  rintro rfl
  rw [hc] at hd
  cases hd

theorem not_isAlphanum_of_numeral {c : Char} (hc : isNumeral c) (hdigit : ¬ c.isDigit) :
    ¬ c.isAlphanum := by
  have hrange := numeral_range hc
  simp only [Char.isAlphanum, Char.isAlpha, Char.isUpper, Char.isLower, Bool.or_eq_true,
    Bool.and_eq_true, decide_eq_true_eq, UInt32.le_iff_toNat_le, ge_iff_le]
  rintro ((h | h) | h)
  · change 65 ≤ c.toNat ∧ c.toNat ≤ 90 at h
    omega
  · change 97 ≤ c.toNat ∧ c.toNat ≤ 122 at h
    omega
  · exact hdigit h

theorem isNumeral_of_digitsValue? {acc : ℕ} {digit : Bool} {cs : List Char} {n : ℕ}
    (h : digitsValue? acc digit cs = some n) : ∀ c ∈ cs, isNumeral c := by
  induction cs generalizing acc digit with
  | nil => exact fun c hc => absurd hc List.not_mem_nil
  | cons c cs ih =>
    rw [digitsValue?] at h
    rw [List.forall_mem_cons]
    split_ifs at h with hc hdigit
    · exact ⟨by simp [isNumeral, hc], ih h⟩
    · cases hd : digitValue? c with
      | none => rw [hd] at h; cases h
      | some d =>
        rw [hd] at h
        exact ⟨by simp [isNumeral, hd], ih h⟩

theorem exists_digit_of_digitsValue? {acc : ℕ} {cs : List Char} {n : ℕ}
    (h : digitsValue? acc false cs = some n) : ∃ c ∈ cs, (digitValue? c).isSome := by
  cases cs with
  | nil => cases h
  | cons c cs =>
    refine ⟨c, List.mem_cons_self, ?_⟩
    by_contra hc
    rw [Option.not_isSome_iff_eq_none] at hc
    simp [digitsValue?, hc] at h

theorem mem_dropWhile_or {p : Char → Bool} {cs : List Char} {c : Char} (hc : c ∈ cs) :
    p c ∨ c ∈ cs.dropWhile p := by
  rw [← cs.takeWhile_append_dropWhile (p := p), List.mem_append] at hc
  exact hc.imp_left fun h => List.mem_takeWhile_imp h

theorem mem_trim_or {cs : List Char} {c : Char} (hc : c ∈ cs) : isBlank c ∨ c ∈ trim cs := by
  rcases mem_dropWhile_or (p := isBlank) hc with h | h
  · exact .inl h
  · rw [trim, List.mem_reverse]
    exact mem_dropWhile_or (List.mem_reverse.2 h)

theorem mem_splitSign_or {cs : List Char} {c : Char} (hc : c ∈ cs) :
    isNumeral c ∨ c ∈ (splitSign cs).2 := by
  unfold splitSign
  split
  · rcases List.mem_cons.1 hc with rfl | h
    · exact .inl (by decide)
    · exact .inr h
  · rcases List.mem_cons.1 hc with rfl | h
    · exact .inl (by decide)
    · exact .inr h
  · exact .inr hc

theorem mem_of_mem_splitSign {cs : List Char} {c : Char} (hc : c ∈ (splitSign cs).2) :
    c ∈ cs := by
  unfold splitSign at hc
  split at hc
  · exact List.mem_cons_of_mem _ hc
  · exact List.mem_cons_of_mem _ hc
  · exact hc

theorem mem_of_mem_trim {cs : List Char} {c : Char} (hc : c ∈ trim cs) : c ∈ cs := by
  rw [trim, List.mem_reverse] at hc
  have h := (List.dropWhile_sublist _).subset hc
  rw [List.mem_reverse] at h
  exact (List.dropWhile_sublist _).subset h

/-- A text that writes an integer has a digit, and no character that does not belong to
    numerals. -/
theorem numeral_of_int? {s : String} {n : ℤ} (h : int? s = some n) :
    (∀ c ∈ s.toList, isNumeral c) ∧ ∃ c ∈ s.toList, (digitValue? c).isSome := by
  rw [int?, ite_eq_iff] at h
  obtain ⟨value, hvalue, -⟩ := Option.map_eq_some_iff.1 (h.resolve_left nofun).2
  refine ⟨fun c hc => ?_, ?_⟩
  · rcases mem_trim_or hc with h | h
    · simp [isNumeral, h]
    · rcases mem_splitSign_or h with h | h
      · exact h
      · exact isNumeral_of_digitsValue? hvalue c h
  · obtain ⟨c, hc, hdigit⟩ := exists_digit_of_digitsValue? hvalue
    exact ⟨c, mem_of_mem_trim (mem_of_mem_splitSign hc), hdigit⟩

end Text

/-! ## Single names -/

namespace Numeric

open Text

theorem isOrder_of_numeral {c : Char} (hc : isNumeral c) : isOrder c = false := by
  simp only [isOrder, Bool.or_eq_false_iff, decide_eq_false_iff_not]
  exact ⟨⟨⟨ne_of_numeral hc (by decide), ne_of_numeral hc (by decide)⟩,
    ne_of_numeral hc (by decide)⟩, ne_of_numeral hc (by decide)⟩

/-- The code of a type is no digit, and the letter of a type belongs to no numeral. -/
theorem coded?_of_digit {c : Char} (hdigit : (digitValue? c).isSome) : coded? [c] = none := by
  have hcodes : ∀ entry ∈ codes, entry.1 < 0x30 := by decide
  have hletters : ∀ entry ∈ letters, isNumeral entry.1 = false := by decide +kernel
  have hc : isNumeral c := by simp [isNumeral, hdigit]
  have hcode : codes.lookup c.toNat = none := by
    refine List.lookup_eq_none_iff.2 fun entry hentry => bne_iff_ne.2 ?_
    have := hcodes entry hentry
    have := digit_range hdigit
    omega
  have hletter : letters.lookup c = none := List.lookup_eq_none_iff.2 fun entry hentry =>
    bne_iff_ne.2 (ne_of_numeral hc (hletters entry hentry))
  rw [coded?, hcode, hletter]
  rfl

theorem coded?_of_numeral {c : Char} (hc : isNumeral c) {rest : List Char} (hrest : rest ≠ []) :
    coded? (c :: rest) = none := by
  have hsized : ∀ entry ∈ sized, isNumeral entry.1 = false := by decide +kernel
  rw [coded?]
  · refine Option.bind_eq_none_iff.2 fun bytes _ => ?_
    refine Option.bind_eq_none_iff.2 fun entry hentry => ?_
    have hkind := List.find?_some hentry
    rw [decide_eq_true_eq] at hkind
    exact absurd hkind.1.symm (ne_of_numeral hc (hsized entry (List.mem_of_find?_eq_some hentry)))
  · exact hrest

theorem lookup_names_of_numeral {c : Char} (hc : isNumeral c) (rest : List Char) :
    names.lookup (.ofList (c :: rest)) = none := by
  have hnames : ∀ entry ∈ names, entry.1.toList.head?.any isNumeral = false := by decide +kernel
  refine List.lookup_eq_none_iff.2 fun entry hentry => bne_iff_ne.2 fun heq => ?_
  have hhead := hnames entry hentry
  rw [← heq, String.toList_ofList, List.head?_cons, Option.any_some, hc] at hhead
  cases hhead

/-- A numeral names no type by itself. -/
theorem single?_of_numeral {cs : List Char} (h : ∀ c ∈ cs, isNumeral c)
    (hdigit : ∀ c, cs = [c] → (digitValue? c).isSome) : single? cs = none := by
  cases cs with
  | nil => rfl
  | cons c rest =>
    have hc := h c List.mem_cons_self
    have hcoded : coded? (c :: rest) = none := by
      rcases eq_or_ne rest [] with rfl | hrest
      · exact coded?_of_digit (hdigit c rfl)
      · exact coded?_of_numeral hc hrest
    rw [single?, lookup_names_of_numeral hc, hcoded]
    · simp [isOrder_of_numeral hc]
    · exact ne_of_numeral hc (by decide)

/-! ## Lists of names -/

namespace Item

variable {cs : List Char}

theorem takeOrder_of_numeral (h : ∀ c ∈ cs, isNumeral c) : takeOrder cs = ([], cs) := by
  have hmarks : cs.takeWhile isOrder = [] := by
    cases cs with
    | nil => rfl
    | cons c cs =>
      rw [List.takeWhile_cons, isOrder_of_numeral (h c List.mem_cons_self)]
      rfl
  simp only [takeOrder, List.span_eq_takeWhile_dropWhile, hmarks]
  rfl

theorem takeChar_of_numeral (h : ∀ c ∈ cs, isNumeral c) {d : Char} (hd : isNumeral d = false) :
    takeChar d cs = ([], cs) :=
  if_neg fun hhead => ne_of_numeral (h d (List.mem_of_head? hhead)) hd rfl

/-- Behind repetitions there is no digit. -/
theorem takeRepeats_of_numeral (h : ∀ c ∈ cs, isNumeral c) :
    (∀ c ∈ (takeRepeats cs).2, isNumeral c) ∧ ∀ c ∈ (takeRepeats cs).2.head?, ¬ c.isDigit := by
  have hdrop : ∀ {p : Char → Bool} {l : List Char}, (∀ c ∈ l, isNumeral c) →
      ∀ c ∈ l.dropWhile p, isNumeral c :=
    fun hl c hc => hl c ((List.dropWhile_sublist _).subset hc)
  simp only [takeRepeats, List.span_eq_takeWhile_dropWhile]
  rw [takeChar_of_numeral (hdrop h) (by decide)]
  rw [takeChar_of_numeral (hdrop (hdrop h)) (by decide)]
  refine ⟨hdrop (hdrop (hdrop h)), ?_⟩
  generalize hrest : List.dropWhile _ (cs.dropWhile (· = ' ')) = rest
  have hfirst := List.head?_dropWhile_not (fun c => c = ' ' || c = ',' || c.isDigit)
    (cs.dropWhile (· = ' '))
  rw [hrest] at hfirst
  cases rest with
  | nil => exact fun c hc => absurd hc nofun
  | cons c rest =>
    simp only [List.head?_cons, Bool.or_eq_false_iff, decide_eq_false_iff_not] at hfirst
    rw [List.dropWhile_cons_of_neg (by simpa using hfirst.1.1)]
    rintro _ ⟨⟩
    simpa using hfirst.2

theorem takeName_of_numeral (h : ∀ c ∈ cs, isNumeral c) (hhead : ∀ c ∈ cs.head?, ¬ c.isDigit) :
    takeName cs = ([], cs) := by
  cases cs with
  | nil => rfl
  | cons c cs =>
    have hc := h c List.mem_cons_self
    have hname : ¬ (c.isAlphanum || c = '.' || c = '?') = true := by
      simp only [Bool.or_eq_true, decide_eq_true_eq]
      rintro ((h | h) | h)
      · exact not_isAlphanum_of_numeral hc (hhead c rfl) h
      · exact ne_of_numeral hc (by decide) h
      · exact ne_of_numeral hc (by decide) h
    rw [takeName, List.span_eq_takeWhile_dropWhile, List.takeWhile_cons_of_neg (by exact hname),
      List.dropWhile_cons_of_neg (by exact hname)]
    have hbracket : c ≠ '[' := ne_of_numeral hc (by decide)
    simp [hbracket]

/-- A list of names that is a numeral begins with no name. -/
theorem take_of_numeral (h : ∀ c ∈ cs, isNumeral c) :
    (take cs).1.orders = ([], []) ∧ (take cs).1.name = [] := by
  obtain ⟨hrest, hhead⟩ := takeRepeats_of_numeral h
  have hbehind := takeOrder_of_numeral hrest
  have hname := takeName_of_numeral hrest hhead
  simp only [take, takeOrder_of_numeral h, hbehind, hname, and_self]

end Item

/-- Without marks for the order of bytes, a name is taken as it is. -/
theorem Item.name_of_read {i : Item} (horders : i.orders = ([], [])) {name : List Char}
    {repeats : Option Repeats} (h : i.read = .ok (name, repeats)) : name = i.name := by
  rw [read, order, horders] at h
  simp only [ok_bind] at h
  split at h
  · exact (Prod.mk.inj (Except.ok.inj h)).1.symm
  · obtain ⟨read, -, h⟩ := of_bind_eq_ok h
    exact (Prod.mk.inj (Except.ok.inj h)).1.symm

theorem readList_of_numeral {all : String} {fuel count : ℕ} {cs name : List Char}
    {repeats : Option Repeats} (h : ∀ c ∈ cs, isNumeral c)
    (hread : readList all fuel count cs = .ok ([(name, repeats)], false)) : name = [] := by
  cases fuel with
  | zero => simp [readList] at hread
  | succ fuel =>
    cases cs with
    | nil => simp [readList] at hread
    | cons c cs =>
      obtain ⟨horders, hname⟩ := Item.take_of_numeral h
      rw [readList] at hread
      · generalize Item.take (c :: cs) = taken at horders hname hread
        simp only at hread
        split at hread
        · cases hread
        · obtain ⟨first, hfirst, hread⟩ := of_bind_eq_ok hread
          split at hread
          · cases hread
            exact (Item.name_of_read horders hfirst).trans hname
          · obtain ⟨tail, -, hread⟩ := of_bind_eq_ok hread
            exact absurd (Prod.mk.inj (Except.ok.inj hread)).2 (by decide)
      · nofun

/-- **A text that writes an integer names no type.** -/
theorem named_of_int? {s : String} {n : ℤ} {t : Option Numeric} (h : int? s = some n)
    (ht : named s = .ok t) : t = none := by
  obtain ⟨hall, c, hc, hdigit⟩ := numeral_of_int? h
  unfold named at ht
  split at ht
  · obtain ⟨items, hread, ht⟩ := of_bind_eq_ok ht
    split at ht
    · rw [readList_of_numeral hall hread] at ht
      exact (Except.ok.inj ht).symm
    · rw [readList_of_numeral hall hread] at ht
      exact (Except.ok.inj ht).symm
    · rw [readList_of_numeral hall hread] at ht
      exact (Except.ok.inj ht).symm
    · exact (Except.ok.inj ht).symm
  · rw [single?_of_numeral hall] at ht
    · exact (Except.ok.inj ht).symm
    · intro d hd
      rw [hd, List.mem_singleton] at hc
      rwa [← hc]

end Numeric

end Chip8
