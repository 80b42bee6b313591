/-
  CHIP-8 machine — what a snapshot of the keys shows.

  A snapshot has sixteen entries that go together, one for each key, and a key is down unless
  its entry is zero.  Anything else is refused, whatever its shape.

  * `Value.keys?`: the keys that a value shows to be down, if it is a snapshot;
  * `Value.entries?_of_outlineOf`: if the shape is a single extent, no entry is a list;
  * `Keypad.ofSnapshot_eq`: reading a snapshot gives the keys it shows, and nothing else is
    read.
-/
import Chip8.KeyMap
import Chip8.Proofs.CommonType

namespace Chip8

/-! ## Snapshots by their entries -/

namespace Value

/-- The entries of a list. -/
def entries? : Value → Option (List Value)
  | list items | tuple items => some items
  | _ => none

/-- The keys that a snapshot shows to be down, if the value is one. -/
def keys? (s : Value) : Option (Nibble → Bool) := do
  let items ← s.entries?
  if items.length = 16 ∧ goTogether items then some fun key => items[key.val]?.any isDown
  else none

/-- Sixteen flags are a snapshot. -/
theorem keys?_flags (keys : Nibble → Bool) :
    (list ((List.finRange 16).map fun key => flag (keys key))).keys? = some keys := by
  have htogether : goTogether ((List.finRange 16).map fun key => flag (keys key)) :=
    (goTogether_iff _).2 (.inl (by simp [isFlag]))
  rw [keys?, entries?, Option.bind_eq_bind, Option.bind_some,
    if_pos ⟨by rw [List.length_map, List.length_finRange], htogether⟩]
  refine congrArg some (funext fun key => ?_)
  simp [isDown]

end Value

/-! ## The shape of entries -/

theorem Outline.eq_of_settle {o : Outline} {extents : List ℕ} (h : o.settle = .ok extents) :
    o = ⟨extents, true⟩ := by
  unfold settle at h
  simp only at h
  split_ifs at h with hdeep heven
  rw [← Except.ok.inj h, ← heven]

theorem commonStart_self (e : List ℕ) : commonStart e e = e := by
  induction e with
  | nil => rfl
  | cons n e ih => rw [commonStart, if_pos rfl, ih]

/-- Parts that share an even outline both have it. -/
theorem Outline.eq_of_meet {a b : Outline} {extents : List ℕ} (h : a.meet b = ⟨extents, true⟩) :
    a = ⟨extents, true⟩ ∧ b = ⟨extents, true⟩ := by
  cases a
  cases b
  simp only [meet, mk.injEq, Bool.and_eq_true, beq_iff_eq] at h
  obtain ⟨rfl, ⟨rfl, rfl⟩, rfl⟩ := h
  rw [commonStart_self]
  exact ⟨rfl, rfl⟩

namespace Nested

theorem outlineOf_eq_none {α : Type} {ns : List (Nested α)} (h : outlineOf ns = none) :
    ns = [] := by
  cases ns with
  | nil => rfl
  | cons n ns =>
    rw [outlineOf] at h
    split at h
    · cases h
    · cases h

theorem cellsOf_map_cell {α : Type} (items : List α) : cellsOf (items.map cell) = items := by
  induction items with
  | nil => rfl
  | cons a items ih =>
    rw [List.map_cons, cellsOf, ih]
    rfl

theorem outlineOf_map_cell {α : Type} (a : α) (items : List α) :
    outlineOf ((a :: items).map cell) = some ⟨[], true⟩ := by
  induction items generalizing a with
  | nil => rfl
  | cons b items ih =>
    rw [List.map_cons, outlineOf, ih]
    rfl

theorem outline_map_cell {α : Type} (items : List α) :
    (list (items.map cell)).outline = ⟨[items.length], true⟩ := by
  cases items with
  | nil => rfl
  | cons a items =>
    rw [outline, outlineOf_map_cell]
    simp

end Nested

namespace Value

theorem nested_of_entries?_eq_none {v : Value} (h : v.entries? = none) : v.nested = .cell v := by
  cases v with
  | list items | tuple items => cases h
  | null | flag b | number n | text s | record fields => rfl

theorem nestedItems_eq_map (items : List Value) : nestedItems items = items.map nested := by
  induction items with
  | nil => rfl
  | cons v items ih => rw [nestedItems, ih, List.map_cons]

theorem nested_of_entries? {v : Value} {items : List Value} (h : v.entries? = some items) :
    v.nested = .list (items.map nested) := by
  cases v with
  | list items | tuple items =>
    cases h
    rw [nested, nestedItems_eq_map]
  | null | flag b | number n | text s | record fields => cases h

theorem entries?_of_outline {v : Value} (h : v.nested.outline.extents = []) :
    v.entries? = none := by
  cases hv : v.entries? with
  | none => rfl
  | some items =>
    rw [nested_of_entries? hv, Nested.outline] at h
    split at h
    · cases h
    · cases h

theorem entries?_of_wants {v : Value} (h : v.wants.isSome) : v.entries? = none := by
  cases v with
  | null | flag b | number n | text s | record fields => rfl
  | list items | tuple items => cases h

/-- If parts have no extents, none of them is a list. -/
theorem entries?_of_outlineOf {items : List Value}
    (h : Nested.outlineOf (items.map nested) = some ⟨[], true⟩) :
    ∀ v ∈ items, v.entries? = none := by
  induction items with
  | nil => exact fun v hv => absurd hv List.not_mem_nil
  | cons v items ih =>
    rw [List.map_cons, Nested.outlineOf] at h
    cases hrest : Nested.outlineOf (items.map nested) with
    | none =>
      rw [hrest] at h
      rw [List.map_eq_nil_iff.1 (Nested.outlineOf_eq_none hrest), List.forall_mem_singleton]
      exact entries?_of_outline (congrArg Outline.extents (Option.some.inj h))
    | some o =>
      rw [hrest] at h
      obtain ⟨hv, ho⟩ := Outline.eq_of_meet (Option.some.inj h)
      rw [List.forall_mem_cons]
      exact ⟨entries?_of_outline (congrArg Outline.extents hv), ih (by rw [hrest, ho])⟩

end Value

/-! ## Reading a snapshot -/

namespace Keypad

theorem settle_of_ofSnapshot {s : Value} {k : Keypad} (h : ofSnapshot s = .ok k) :
    s.nested.outline.settle = .ok [16] := by
  obtain ⟨-, -, h⟩ := of_bind_eq_ok h
  obtain ⟨type, -, h⟩ := of_bind_eq_ok h
  obtain ⟨extents, hextents, h⟩ := of_bind_eq_ok h
  obtain ⟨flags, -, h⟩ := of_bind_eq_ok h
  split_ifs at h with hshape
  rw [hextents, hshape]

theorem entries?_of_ofSnapshot {s : Value} {k : Keypad} (h : ofSnapshot s = .ok k) :
    ∃ items, s.entries? = some items ∧ ∀ v ∈ items, v.entries? = none := by
  have hsettle := Outline.eq_of_settle (settle_of_ofSnapshot h)
  cases hs : s.entries? with
  | none =>
    rw [Value.nested_of_entries?_eq_none hs, Nested.outline] at hsettle
    exact absurd (congrArg Outline.extents hsettle) (by decide)
  | some items =>
    rw [Value.nested_of_entries? hs, Nested.outline] at hsettle
    refine ⟨items, rfl, ?_⟩
    split at hsettle
    next => exact absurd (congrArg Outline.extents hsettle) (by decide)
    next o ho =>
      rw [Outline.mk.injEq, List.cons.injEq] at hsettle
      obtain ⟨⟨-, hextents⟩, heven⟩ := hsettle
      refine Value.entries?_of_outlineOf (ho.trans ?_)
      rw [← hextents, ← heven]

/-- If no entry is a list, the number of entries is the shape. -/
theorem ofSnapshot_of_scalars {s : Value} {items : List Value} (hs : s.entries? = some items)
    (hscalars : ∀ v ∈ items, v.entries? = none) :
    ofSnapshot s = (Numeric.common items >>= fun type => items.mapM type.isSet) >>= fun flags =>
      if [items.length] = [16] then .ok (ofFlags fun key => flags.toArray.getD key false)
      else .error (.array (.keypadShape [items.length])) := by
  have hcheck : checkScalar s = .ok () := by
    cases s with
    | list _ | tuple _ => rfl
    | null | flag _ | number _ | text _ | record _ => cases hs
  have hcells : s.nested = .list (items.map .cell) := by
    rw [Value.nested_of_entries? hs]
    exact congrArg Nested.list
      (List.map_congr_left fun v hv => Value.nested_of_entries?_eq_none (hscalars v hv))
  have hvalues : (Nested.list (items.map .cell)).cells = items := Nested.cellsOf_map_cell items
  rw [ofSnapshot, hcheck, hcells, hvalues, Nested.outline_map_cell, bind_assoc]
  rfl

theorem getD_isDown (items : List Value) :
    (fun key : Nibble => (items.map Value.isDown).toArray.getD key false) =
      fun key : Nibble => items[key.val]?.any Value.isDown := by
  funext key
  rw [Array.getD_eq_getD_getElem?, List.getElem?_toArray, List.getElem?_map]
  cases items[key.val]? with
  | none => rfl
  | some v => rfl

/-- **A snapshot shows the keys of its entries**, and what is no snapshot is refused. -/
theorem ofSnapshot_eq (s : Value) : (ofSnapshot s).toOption = s.keys?.map ofFlags := by
  by_cases hscalars : ∃ items, s.entries? = some items ∧ ∀ v ∈ items, v.entries? = none
  · obtain ⟨items, hs, hscalars⟩ := hscalars
    rw [ofSnapshot_of_scalars hs hscalars, toOption_bind, Numeric.common_isSet, Value.keys?, hs,
      Option.bind_eq_bind, Option.bind_some]
    by_cases htogether : Value.goTogether items
    · rw [if_pos htogether, Option.bind_some, getD_isDown]
      by_cases hcount : items.length = 16
      · rw [hcount, if_pos rfl, if_pos ⟨rfl, htogether⟩]
        rfl
      · rw [if_neg fun h => hcount (List.cons.inj h).1, if_neg fun h => hcount h.1]
        rfl
    · rw [if_neg htogether, if_neg fun h => htogether h.2]
      rfl
  · have hnone : s.keys? = none := by
      rw [Value.keys?]
      refine Option.bind_eq_none_iff.2 fun items hs => if_neg fun h => hscalars ⟨items, hs, ?_⟩
      exact fun v hv => Value.entries?_of_wants (Numeric.wants_of_goTogether h.2 v hv)
    rw [hnone]
    cases hk : ofSnapshot s with
    | error e => rfl
    | ok k => exact absurd (entries?_of_ofSnapshot hk) hscalars

end Keypad

end Chip8
