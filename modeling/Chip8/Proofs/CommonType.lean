/-
  Storage — values that go into one array.

  Values go together if one type holds them all: flags, integers of 32 bits, or numbers of
  which one at least is real.  The type that the array gets in the end is found from what each
  of them asks for, and each is kept in it or refused.

  * `Value.goTogether`, `Value.isDown`: which values go together, and whether one is not zero;
  * `Numeric.common_of_wants`, `Numeric.common_of_wants_none`: there is a common type iff every
    value can be an element;
  * `Numeric.typeOf_eq_flag_iff`, `Numeric.typeOf_of_real`, `Numeric.typeOf_of_integers`: which
    type it is;
  * `Numeric.isSet_flag`, `Numeric.isSet_int`, `Numeric.isSet_real`, `Numeric.isSet_text`: what
    is kept in it;
  * `Numeric.common_isSet`: all of it.
-/
import Chip8.Proofs.NearestDouble
import Chip8.Proofs.Numerals
import Chip8.Storage.CommonType

namespace Chip8

/-! ## Values by what they are -/

namespace Value

/-- A flag, or a text that names the type of flags. -/
def isFlag : Value → Bool
  | flag _ => true
  | text s => (Numeric.named s).toOption = some (some .flag)
  | _ => false

/-- A flag, or an integer of 32 bits. -/
def isSmall : Value → Bool
  | flag _ => true
  | number (.int n) => -2 ^ 31 ≤ n ∧ n < 2 ^ 31
  | _ => false

/-- A flag, or a number that is not too large for a double. -/
def fitsReal : Value → Bool
  | flag _ => true
  | number (.int n) => n.natAbs < Binary64.tooLarge
  | number (.real _) => true
  | _ => false

/-- Whether a type holds all of some entries.  An integer beyond 32 bits is held only beside a
    real number. -/
def goTogether (items : List Value) : Bool :=
  items.all isFlag || items.all isSmall ||
    (items.any fun v => v.kind = .real) && items.all fitsReal

theorem goTogether_iff (items : List Value) :
    goTogether items ↔ (∀ v ∈ items, v.isFlag) ∨ (∀ v ∈ items, v.isSmall) ∨
      (∃ v ∈ items, v.kind = .real) ∧ ∀ v ∈ items, v.fitsReal := by
  simp [goTogether, or_assoc]

/-- Whether an entry is not zero.  A real number counts as zero if it is below `2 ^ -126` after
    rounding to single precision, where steps are `2 ^ -149`. -/
def isDown : Value → Bool
  | flag b => b
  | number (.int n) => n ≠ 0
  | number (.real x) =>
    match Binary64.ofFloat x with
    | .finite _ units => Nat.pow 2 948 - Nat.pow 2 924 ≤ units
    | _ => true
  | text _ => true
  | _ => false

end Value

/-! ## The common type of entries -/

/-- The type that a value asks for where it can be an entry, if it asks for one. -/
def Value.wants : Value → Option (Option Numeric)
  | flag _ => some (some .flag)
  | number (.int _) => some none
  | number (.real _) => some (some .real)
  | text s => (Numeric.named s).toOption.join.map some
  | _ => none

namespace Numeric

variable {items : List Value} {v : Value}

theorem asks_of_wants {w : Option Numeric} (h : v.wants = some w) :
    ∃ a, v.asks = .ok a ∧ a.refusal? = none ∧ a.type? = w := by
  cases v with
  | flag b =>
    cases h
    exact ⟨_, rfl, rfl, rfl⟩
  | number n =>
    cases n with
    | int n =>
      cases h
      exact ⟨_, rfl, rfl, rfl⟩
    | real x =>
      cases h
      exact ⟨_, rfl, rfl, rfl⟩
  | text s =>
    rw [Value.wants] at h
    rw [Value.asks]
    cases hs : named s with
    | error e => rw [hs] at h; cases h
    | ok t =>
      rw [hs] at h
      cases t with
      | none => cases h
      | some t =>
        cases h
        exact ⟨_, rfl, rfl, rfl⟩
  | null | list items | tuple items | record fields => cases h

theorem asks_of_wants_none (h : v.wants = none) {a : Asked} (ha : v.asks = .ok a) :
    a.refusal?.isSome := by
  cases v with
  | flag b => cases h
  | number n => cases n <;> cases h
  | text s =>
    rw [Value.asks] at ha
    obtain ⟨t, ht, ha⟩ := of_bind_eq_ok ha
    rw [Value.wants, ht] at h
    cases t with
    | none =>
      cases ha
      rfl
    | some t => cases h
  | null => cases ha
  | list items =>
    cases ha
    rfl
  | tuple items =>
    cases ha
    rfl
  | record fields =>
    rcases fields with _ | ⟨⟨name, field⟩, fields⟩
    · cases ha
      rfl
    · cases field with
      | text _ | list _ | tuple _ | record _ => cases ha
      | null | flag _ | number _ =>
        cases ha
        rfl

/-- What asks for a type or for nothing can be an entry, and nothing else can. -/
theorem mapM_asks_of_wants (h : ∀ v ∈ items, v.wants.isSome) :
    ∃ asked, items.mapM Value.asks = .ok asked ∧ asked.findSome? Asked.refusal? = none ∧
      asked.filterMap Asked.type? = items.filterMap (·.wants.join) := by
  induction items with
  | nil => exact ⟨[], rfl, rfl, rfl⟩
  | cons v items ih =>
    obtain ⟨hv, hitems⟩ := List.forall_mem_cons.1 h
    obtain ⟨w, hw⟩ := Option.isSome_iff_exists.1 hv
    obtain ⟨a, ha, hrefusal, htype⟩ := asks_of_wants hw
    obtain ⟨asked, hasked, hrefusals, htypes⟩ := ih hitems
    refine ⟨a :: asked, ?_, ?_, ?_⟩
    · rw [List.mapM_cons, ha, ok_bind, hasked]
      rfl
    · rw [List.findSome?_cons, hrefusal]
      exact hrefusals
    · rw [List.filterMap_cons, List.filterMap_cons, htype, hw, htypes]
      rfl

theorem findSome?_refusal_of_mapM {asked : List Asked} (h : items.mapM Value.asks = .ok asked)
    (hv : v ∈ items) (hwants : v.wants = none) : (asked.findSome? Asked.refusal?).isSome := by
  induction items generalizing asked with
  | nil => exact absurd hv List.not_mem_nil
  | cons u items ih =>
    rw [List.mapM_cons] at h
    obtain ⟨a, ha, h⟩ := of_bind_eq_ok h
    obtain ⟨rest, hrest, h⟩ := of_bind_eq_ok h
    cases h
    rw [List.findSome?_cons]
    rcases List.mem_cons.1 hv with rfl | hv
    · obtain ⟨e, he⟩ := Option.isSome_iff_exists.1 (asks_of_wants_none hwants ha)
      rw [he]
      rfl
    · cases a.refusal? with
      | some e => rfl
      | none => exact ih hrest hv

/-- The type that entries are kept in. -/
def typeOf (items : List Value) : Numeric :=
  let type := ((items.filterMap (·.wants.join)).foldl join flag).narrow
  if type = flag && items.any isInteger then int 32 else type

theorem common_of_wants (h : ∀ v ∈ items, v.wants.isSome) : common items = .ok (typeOf items) := by
  obtain ⟨asked, hasked, hrefusal, htypes⟩ := mapM_asks_of_wants h
  have hnull : ¬ (items.any fun v => v.kind = .null) = true := by
    rw [List.any_eq_true]
    rintro ⟨v, hv, hkind⟩
    have hwants := h v hv
    cases v with
    | null => cases hwants
    | number n => cases n <;> cases hkind
    | flag _ | text _ | list _ | tuple _ | record _ => cases hkind
  rw [common, if_neg hnull]
  simp only [hasked, ok_bind, hrefusal, htypes]
  rfl

theorem common_of_wants_none (hv : v ∈ items) (hwants : v.wants = none) (t : Numeric) :
    common items ≠ .ok t := by
  intro h
  rw [common] at h
  split at h
  · cases h
  · obtain ⟨asked, hasked, h⟩ := of_bind_eq_ok h
    obtain ⟨e, he⟩ := Option.isSome_iff_exists.1 (findSome?_refusal_of_mapM hasked hv hwants)
    rw [he] at h
    cases h

theorem join_eq_flag_iff (a b : Numeric) : join a b = flag ↔ a = flag ∧ b = flag := by
  have hsigned : ∀ m n, signedWith m n ≠ flag := by
    intro m n
    unfold signedWith
    split_ifs
    · nofun
    · nofun
  cases a with
  | flag => simp [flag_join]
  | integer a =>
    cases b with
    | integer b =>
      simp only [join]
      split_ifs
      all_goals simp [hsigned]
    | flag | real | complex => simp [join]
  | real => cases b <;> simp [join]
  | complex => cases b <;> simp [join]

theorem foldl_join_eq_flag_iff (ts : List Numeric) (a : Numeric) :
    ts.foldl join a = flag ↔ a = flag ∧ ∀ t ∈ ts, t = flag := by
  induction ts generalizing a with
  | nil => simp
  | cons t ts ih => rw [List.foldl_cons, ih, join_eq_flag_iff, List.forall_mem_cons, and_assoc]

theorem narrow_eq_flag_iff (t : Numeric) : t.narrow = flag ↔ t = flag := by
  cases t <;> simp [narrow]

theorem isFlag_iff (h : v.wants.isSome) :
    v.isFlag ↔ isInteger v = false ∧ ∀ t ∈ v.wants.join, t = flag := by
  cases v with
  | flag b => simp [Value.isFlag, isInteger, Value.wants]
  | number n =>
    cases n with
    | int n => simp [Value.isFlag, isInteger]
    | real x => simp [Value.isFlag, isInteger, Value.wants]
  | text s =>
    rw [Value.wants] at h
    obtain ⟨w, hw⟩ := Option.isSome_iff_exists.1 h
    obtain ⟨t, ht, rfl⟩ := Option.map_eq_some_iff.1 hw
    rw [Value.isFlag, Value.wants, ht, Option.join_eq_some_iff.1 ht]
    simp [isInteger]
  | null | list items | tuple items | record fields => cases h

/-- Only flags are kept as flags. -/
theorem typeOf_eq_flag_iff (h : ∀ v ∈ items, v.wants.isSome) :
    typeOf items = flag ↔ ∀ v ∈ items, v.isFlag := by
  have htype : ((items.filterMap (·.wants.join)).foldl join flag).narrow = flag ↔
      ∀ v ∈ items, ∀ t ∈ v.wants.join, t = flag := by
    rw [narrow_eq_flag_iff, foldl_join_eq_flag_iff, and_iff_right rfl]
    simp only [List.mem_filterMap, forall_exists_index, and_imp, Option.mem_def]
    exact forall_comm.trans (forall_congr' fun v => forall_comm)
  have hflags : (∀ v ∈ items, v.isFlag) ↔
      (items.any isInteger) = false ∧ ∀ v ∈ items, ∀ t ∈ v.wants.join, t = flag := by
    simp only [List.any_eq_false, Bool.not_eq_true, ← forall₂_and]
    exact forall₂_congr fun v hv => isFlag_iff (h v hv)
  unfold typeOf
  rw [hflags, ← htype]
  cases items.any isInteger with
  | false => simp
  | true =>
    simp only [Bool.and_true, decide_eq_true_eq]
    split_ifs with h
    · simp [int]
    · simp [h]

/-- Of flags and real numbers, one real number makes all of them real. -/
theorem foldl_join_real {ts : List Numeric} (h : ∀ t ∈ ts, t = flag ∨ t = real) {a : Numeric}
    (ha : a = real ∨ a = flag ∧ real ∈ ts) : ts.foldl join a = real := by
  induction ts generalizing a with
  | nil => exact ha.resolve_right fun hmem => absurd hmem.2 List.not_mem_nil
  | cons t ts ih =>
    obtain ⟨ht, hts⟩ := List.forall_mem_cons.1 h
    refine ih hts ?_
    rcases ha with rfl | ⟨rfl, hmem⟩
    · rcases ht with rfl | rfl
      · exact .inl rfl
      · exact .inl rfl
    · rcases List.mem_cons.1 hmem with rfl | hmem
      · exact .inl rfl
      · exact ht.elim (fun ht => .inr ⟨ht, hmem⟩) .inl

theorem wants_of_number (h : v.number?.isSome) :
    v.wants.isSome ∧ ∀ t ∈ v.wants.join, t = flag ∨ t = real ∧ v.kind = .real := by
  cases v with
  | flag b => simp [Value.wants]
  | number n => cases n <;> simp [Value.wants, Value.kind, Number.kind]
  | null | text s | list items | tuple items | record fields => cases h

/-- Numbers of which one is real are kept as reals. -/
theorem typeOf_of_real (h : ∀ v ∈ items, v.number?.isSome) (hv : v ∈ items)
    (hreal : v.kind = .real) : typeOf items = real := by
  have htypes : ∀ t ∈ items.filterMap (·.wants.join), t = flag ∨ t = real := by
    intro t ht
    obtain ⟨u, hu, hut⟩ := List.mem_filterMap.1 ht
    exact ((wants_of_number (h u hu)).2 t hut).imp_right And.left
  have hmem : real ∈ items.filterMap (·.wants.join) := by
    refine List.mem_filterMap.2 ⟨v, hv, ?_⟩
    cases v with
    | number n =>
      cases n with
      | real x => rfl
      | int n => cases hreal
    | flag _ | null | text _ | list _ | tuple _ | record _ => cases hreal
  rw [typeOf, foldl_join_real htypes (.inr ⟨rfl, hmem⟩)]
  rfl

/-- Integers are kept in 32 bits, and flags with them. -/
theorem typeOf_of_integers (h : ∀ v ∈ items, v.number?.isSome)
    (hreal : ∀ v ∈ items, v.kind ≠ .real) (hflags : ¬ ∀ v ∈ items, v.isFlag) :
    typeOf items = int 32 := by
  have htype : (items.filterMap (·.wants.join)).foldl join flag = flag := by
    refine (foldl_join_eq_flag_iff _ _).2 ⟨rfl, fun t ht => ?_⟩
    obtain ⟨u, hu, hut⟩ := List.mem_filterMap.1 ht
    exact ((wants_of_number (h u hu)).2 t hut).resolve_right fun hr => hreal u hu hr.2
  have hne := mt (typeOf_eq_flag_iff fun v hv => (wants_of_number (h v hv)).1).1 hflags
  unfold typeOf at hne ⊢
  rw [htype] at hne ⊢
  exact if_pos (by_contra fun hif => hne (if_neg hif))

theorem isSet_flag (h : v.isFlag) : flag.isSet v = .ok v.isDown := by
  cases v with
  | flag b => rfl
  | text s =>
    refine congrArg Except.ok ?_
    rw [Value.isFlag, decide_eq_true_eq] at h
    rw [Value.truth, Value.isDown, Bool.not_eq_true', String.isEmpty_eq_false_iff]
    rintro rfl
    exact absurd h nofun
  | null | number n | list items | tuple items | record fields => cases h

theorem isNonzero_eq (n : Number) : isNonzero n = (Value.number n).isDown := by
  cases n with
  | int n => exact Bool.eq_iff_iff.2 (bne_iff_ne.trans decide_eq_true_iff.symm)
  | real x => rfl

theorem isSet_int (h : v.number?.isSome) (hreal : v.kind ≠ .real) :
    ((int 32).isSet v).toOption = if v.isSmall then some v.isDown else none := by
  cases v with
  | flag b => cases b <;> rfl
  | number n =>
    cases n with
    | int n =>
      have hholds : IntegerType.int32.holds n = (Value.number (.int n)).isSmall := by
        rw [Bool.eq_iff_iff, IntegerType.int32, IntegerType.holds_signed]
        exact decide_eq_true_iff.symm
      show ((if IntegerType.int32.holds n then .ok n else .error _ : Except Error ℤ) >>=
        fun k => pure (k != 0)).toOption = _
      rw [hholds]
      cases (Value.number (.int n)).isSmall with
      | false => rfl
      | true => exact congrArg some (isNonzero_eq (.int n))
    | real x => exact absurd rfl hreal
  | null | text s | list items | tuple items | record fields => cases h

theorem toOption_toFloat (n : Number) : n.toFloat.toOption = n.toFloat? := by
  unfold Number.toFloat
  split
  next x hx => exact hx.symm
  next hx => exact hx.symm

theorem isSome_toFloat? (n : Number) : n.toFloat?.isSome = (Value.number n).fitsReal := by
  cases n with
  | int n =>
    rw [Bool.eq_iff_iff, Value.fitsReal, decide_eq_true_eq]
    exact Binary64.ofInt?_isSome_iff n
  | real x => rfl

theorem isSet_real (h : v.number?.isSome) :
    (real.isSet v).toOption = if v.fitsReal then some v.isDown else none := by
  cases v with
  | flag b => rfl
  | number n =>
    rw [isSet, isSetReal, toOption_bind, toOption_toFloat, isNonzero_eq, ← isSome_toFloat?]
    cases n.toFloat? with
    | none => rfl
    | some x => rfl
  | null | text s | list items | tuple items | record fields => cases h

/-- A text is kept as nothing but a flag. -/
theorem isSet_text {s : String} {t type : Numeric} (hs : named s = .ok (some t))
    (htype : type ≠ flag) : (type.isSet (.text s)).toOption = none := by
  cases type with
  | flag => exact absurd rfl htype
  | integer type =>
    have hint : Text.int? s = none := by
      refine Option.eq_none_iff_forall_ne_some.2 fun n hn => ?_
      exact absurd (named_of_int? hn hs) nofun
    simp only [isSet, IntegerType.pack, Text.int, hint]
    rfl
  | real => rfl
  | complex => rfl

theorem number?_of_wants (h : v.wants.isSome)
    (htext : ∀ s t, v = .text s → named s ≠ .ok (some t)) : v.number?.isSome := by
  cases v with
  | flag b => rfl
  | number n => rfl
  | text s =>
    obtain ⟨w, hw⟩ := Option.isSome_iff_exists.1 h
    obtain ⟨t, ht, -⟩ := Option.map_eq_some_iff.1 hw
    exact absurd (ok_of_toOption (Option.join_eq_some_iff.1 ht)) (htext s t rfl)
  | null | list items | tuple items | record fields => cases h

theorem wants_of_isFlag (h : v.isFlag) : v.wants.isSome := by
  cases v with
  | flag b => rfl
  | text s =>
    rw [Value.isFlag, decide_eq_true_eq] at h
    rw [Value.wants, h]
    rfl
  | null | number n | list items | tuple items | record fields => cases h

theorem number?_of_isSmall (h : v.isSmall) : v.number?.isSome := by
  cases v with
  | flag b => rfl
  | number n => rfl
  | null | text s | list items | tuple items | record fields => cases h

theorem kind_of_isSmall (h : v.isSmall) : v.kind ≠ .real := by
  cases v with
  | flag b => nofun
  | number n =>
    cases n with
    | int n => nofun
    | real x => cases h
  | null | text s | list items | tuple items | record fields => cases h

theorem number?_of_fitsReal (h : v.fitsReal) : v.number?.isSome := by
  cases v with
  | flag b => rfl
  | number n => rfl
  | null | text s | list items | tuple items | record fields => cases h

theorem wants_of_goTogether (h : Value.goTogether items) : ∀ v ∈ items, v.wants.isSome := by
  intro v hv
  rcases (Value.goTogether_iff items).1 h with h | h | h
  · exact wants_of_isFlag (h v hv)
  · exact (wants_of_number (number?_of_isSmall (h v hv))).1
  · exact (wants_of_number (number?_of_fitsReal (h.2 v hv))).1

/-- Beside a text, nothing goes together but flags. -/
theorem mapM_isSet_of_text (hwants : ∀ v ∈ items, v.wants.isSome)
    (hflags : ¬ ∀ v ∈ items, v.isFlag) {s : String} {t : Numeric} (hmem : .text s ∈ items)
    (hs : named s = .ok (some t)) :
    (items.mapM (typeOf items).isSet).toOption = none ∧ ¬ Value.goTogether items := by
  have htype := mt (typeOf_eq_flag_iff hwants).1 hflags
  refine ⟨toOption_mapM_eq_none hmem (isSet_text hs htype), ?_⟩
  rw [Value.goTogether_iff]
  rintro (h | h | h)
  · exact hflags h
  · exact absurd (h _ hmem) nofun
  · exact absurd (h.2 _ hmem) nofun

/-- Numbers go together as reals if one of them is real, and as integers otherwise. -/
theorem mapM_isSet_of_numbers (hnumbers : ∀ v ∈ items, v.number?.isSome)
    (hflags : ¬ ∀ v ∈ items, v.isFlag) :
    (items.mapM (typeOf items).isSet).toOption =
      if Value.goTogether items then some (items.map Value.isDown) else none := by
  have htogether := Value.goTogether_iff items
  rw [or_iff_right hflags] at htogether
  by_cases hreal : ∃ v ∈ items, v.kind = .real
  · have hsmall : ¬ ∀ v ∈ items, v.isSmall := fun h =>
      hreal.elim fun v hv => kind_of_isSmall (h v hv.1) hv.2
    rw [or_iff_right hsmall, and_iff_right hreal] at htogether
    obtain ⟨v, hv, hkind⟩ := hreal
    rw [typeOf_of_real hnumbers hv hkind, toOption_mapM fun v hv => isSet_real (hnumbers v hv)]
    exact if_congr (List.all_eq_true.trans htogether.symm) rfl rfl
  · rw [or_iff_left fun h => hreal h.1] at htogether
    have hkind : ∀ v ∈ items, v.kind ≠ .real := fun v hv h => hreal ⟨v, hv, h⟩
    rw [typeOf_of_integers hnumbers hkind hflags,
      toOption_mapM fun v hv => isSet_int (hnumbers v hv) (hkind v hv)]
    exact if_congr (List.all_eq_true.trans htogether.symm) rfl rfl

/-- **Which entries go together**, and which of them are not zero. -/
theorem common_isSet (items : List Value) :
    (common items >>= fun type => items.mapM type.isSet).toOption =
      if Value.goTogether items then some (items.map Value.isDown) else none := by
  by_cases hwants : ∀ v ∈ items, v.wants.isSome
  · rw [common_of_wants hwants, ok_bind]
    by_cases hflags : ∀ v ∈ items, v.isFlag
    · rw [(typeOf_eq_flag_iff hwants).2 hflags,
        if_pos ((Value.goTogether_iff items).2 (.inl hflags)),
        toOption_mapM (p := fun _ => true) fun v hv => by rw [isSet_flag (hflags v hv)]; rfl,
        if_pos (List.all_eq_true.2 fun _ _ => rfl)]
    by_cases htext : ∃ s t, Value.text s ∈ items ∧ named s = .ok (some t)
    · obtain ⟨s, t, hmem, hs⟩ := htext
      obtain ⟨hnone, hapart⟩ := mapM_isSet_of_text hwants hflags hmem hs
      rw [hnone, if_neg hapart]
    · exact mapM_isSet_of_numbers (fun v hv => number?_of_wants (hwants v hv)
        fun s t hs hnamed => htext ⟨s, t, hs ▸ hv, hnamed⟩) hflags
  · obtain ⟨v, hv, hnone⟩ : ∃ v ∈ items, v.wants = none := by
      simpa using hwants
    rw [if_neg fun h => hwants (wants_of_goTogether h)]
    cases hcommon : common items with
    | error e => rfl
    | ok type => exact absurd hcommon (common_of_wants_none hv hnone type)

end Numeric

end Chip8
