/-
  CHIP-8 machine — the unchecked stack under any requests.

  `push` and `pop` check nothing.  Between sixteen addresses and none they keep a list, the
  latest address first.  A push onto a full stack is dropped from the slots, but the pointer
  counts it: it is as if the address on top had been pushed once more.  At 256 the pointer
  starts anew, and the stack with it.

  * `counted`: the addresses that the pointer counts, those above the sixteenth repeating it;
  * `Shows.meet`: what one request does to them;
  * `Keeper.simulates`: two keepers of addresses that agree on every request agree on all;
  * `lifo_until_overrun`: hence the stack is a bounded list exactly until a push finds it full
    or a pop finds nothing, and what it is from then on; `overrun_is_counted`: that is not what
    dropping a push means.
-/
import Chip8.Proofs.Stack

namespace Chip8.CallStack

/-! ## Requests -/

/-- A request to a keeper of addresses. -/
inductive Request where
  | push (a : UInt16)
  | pop
deriving DecidableEq

/-- A keeper of addresses: the state after a request, and the address that a pop gives. -/
abbrev Keeper (σ : Type) := σ → Request → σ × Option UInt16

namespace Keeper

variable {σ τ : Type} (k : Keeper σ) (k' : Keeper τ)

/-- The state after several requests. -/
def after (s : σ) (rs : List Request) : σ := rs.foldl (fun s r => (k s r).1) s

/-- The addresses that several requests give, one answer for each of them. -/
def answers (s : σ) : List Request → List (Option UInt16)
  | [] => []
  | r :: rs => (k s r).2 :: answers (k s r).1 rs

/-- Every request is allowed in the state in which it is made. -/
def Always (allowed : σ → Request → Prop) (s : σ) : List Request → Prop
  | [] => True
  | r :: rs => allowed s r ∧ Always allowed (k s r).1 rs

instance decidableAlways (allowed : σ → Request → Prop) [∀ s r, Decidable (allowed s r)] :
    ∀ s rs, Decidable (k.Always allowed s rs)
  | _, [] => isTrue trivial
  | s, r :: rs =>
    have := decidableAlways allowed (k s r).1 rs
    inferInstanceAs (Decidable (allowed s r ∧ k.Always allowed (k s r).1 rs))

variable {k k'} {s : σ} {rs rs' : List Request}

theorem after_append : k.after s (rs ++ rs') = k.after (k.after s rs) rs' :=
  List.foldl_append

theorem answers_append :
    k.answers s (rs ++ rs') = k.answers s rs ++ k.answers (k.after s rs) rs' := by
  induction rs generalizing s with
  | nil => rfl
  | cons r rs ih =>
    rw [List.cons_append, answers, answers, List.cons_append, ih]
    rfl

theorem always_append {allowed : σ → Request → Prop} :
    k.Always allowed s (rs ++ rs') ↔
      k.Always allowed s rs ∧ k.Always allowed (k.after s rs) rs' := by
  induction rs generalizing s with
  | nil => exact ⟨fun h => ⟨trivial, h⟩, And.right⟩
  | cons r rs ih =>
    rw [List.cons_append, Always, Always, ih, and_assoc]
    rfl

/-- Keepers in line with each other, which every allowed request keeps so and which answer it
    alike, answer all requests alike and are in line afterwards. -/
theorem simulates {InLine : σ → τ → Prop} {allowed : τ → Request → Prop}
    (hmeet : ∀ s t r, InLine s t → allowed t r →
      (k s r).2 = (k' t r).2 ∧ InLine (k s r).1 (k' t r).1)
    {t : τ} (hline : InLine s t) (hrs : k'.Always allowed t rs) :
    k.answers s rs = k'.answers t rs ∧ InLine (k.after s rs) (k'.after t rs) := by
  induction rs generalizing s t with
  | nil => exact ⟨rfl, hline⟩
  | cons r rs ih =>
    obtain ⟨hr, hrs⟩ := hrs
    obtain ⟨hanswer, hline⟩ := hmeet s t r hline hr
    obtain ⟨hanswers, hafter⟩ := ih hline hrs
    refine ⟨?_, hafter⟩
    rw [answers, answers, hanswer, hanswers]

end Keeper

/-! ## Three keepers -/

/-- The stack, which checks nothing. -/
def unchecked : Keeper CallStack
  | s, .push a => (s.push a, none)
  | s, .pop => (s.pop.2, some s.pop.1)

/-- A list of at most sixteen addresses, the latest first; a push onto sixteen changes nothing. -/
def bounded : Keeper (List UInt16)
  | l, .push a => (if l.length < 16 then a :: l else l, none)
  | l, .pop => (l.tail, l.head?)

/-- A list of at most 255 addresses, the latest first.  A push onto sixteen or more repeats the
    address on top in place of its own, and a push onto 255 leaves none. -/
def overrunning : Keeper (List UInt16)
  | l, .push a =>
    (if l.length < 16 then a :: l else if l.length < 255 then l.headD a :: l else [], none)
  | l, .pop => (l.tail, l.head?)

/-- A pop finds an address. -/
def FindsAddress (l : List UInt16) : Request → Prop
  | .push _ => True
  | .pop => l ≠ []

instance decidableFindsAddress (l : List UInt16) : ∀ r, Decidable (FindsAddress l r)
  | .push _ => isTrue trivial
  | .pop => inferInstanceAs (Decidable (l ≠ []))

/-- A push finds fewer than sixteen addresses, and a pop finds one. -/
def Fits (l : List UInt16) : Request → Prop
  | .push _ => l.length < 16
  | .pop => l ≠ []

instance decidableFits (l : List UInt16) : ∀ r, Decidable (Fits l r)
  | .push _ => inferInstanceAs (Decidable (l.length < 16))
  | .pop => inferInstanceAs (Decidable (l ≠ []))

namespace Fits

variable {l : List UInt16} {r : Request}

theorem findsAddress (h : Fits l r) : FindsAddress l r := by
  cases r with
  | push a => trivial
  | pop => exact h

/-- As long as there is room, the two lists do the same. -/
theorem bounded_eq_overrunning (h : Fits l r) : bounded l r = overrunning l r := by
  cases r with
  | push a =>
    have hroom : l.length < 16 := h
    simp only [bounded, overrunning, if_pos hroom]
  | pop => rfl

end Fits

theorem length_bounded_le {l : List UInt16} (hl : l.length ≤ 16) (r : Request) :
    (bounded l r).1.length ≤ 16 := by
  cases r with
  | push a =>
    simp only [bounded]
    split_ifs with hroom
    · exact hroom
    · exact hl
  | pop =>
    simp only [bounded, List.length_tail]
    omega

theorem length_bounded_after_le (rs : List Request) : (bounded.after [] rs).length ≤ 16 := by
  induction rs using List.reverseRecOn with
  | nil => decide
  | append_singleton rs r ih =>
    rw [Keeper.after_append]
    exact length_bounded_le ih r

/-! ## The addresses that the pointer counts -/

/-- The first `n` addresses that were pushed, the latest first, as far as the slots tell:
    a slot that does not exist reads as the last one. -/
def counted (s : CallStack) : ℕ → List UInt16
  | 0 => []
  | n + 1 => s.slots[min n 15] :: s.counted n

variable {s s' : CallStack} {l : List UInt16} {a : UInt16} {n p : ℕ}

theorem counted_congr (h : ∀ i < n, s'.slots[min i 15] = s.slots[min i 15]) :
    s'.counted n = s.counted n := by
  induction n with
  | zero => rfl
  | succ n ih =>
    rw [counted, counted, h n (Nat.lt_succ_self n), ih fun i hi => h i (Nat.lt_succ_of_lt hi)]

/-- What is written at or above the `n`-th slot is not seen below it. -/
theorem counted_of_set (hp : n ≤ p) (hset : s'.slots = s.slots.setIfInBounds p a) :
    s'.counted n = s.counted n := by
  refine counted_congr fun i hi => ?_
  simp only [hset]
  rw [Vector.getElem_setIfInBounds_ne _ (by omega)]

/-- A stack shows a list: its pointer counts the addresses, and its slots hold them. -/
structure Shows (s : CallStack) (l : List UInt16) : Prop where
  pointer : s.pointer.toNat = l.length
  counted : s.counted l.length = l

theorem shows_empty : empty.Shows [] where
  pointer := rfl
  counted := rfl

namespace Shows

/-- The address on top of a list that is not empty, and what the stack shows below it. -/
theorem top {b : UInt16} (h : s.Shows (b :: l)) :
    s.slots[min l.length 15] = b ∧ s.counted l.length = l := by
  have hcounted := h.counted
  rw [List.length_cons, CallStack.counted] at hcounted
  exact List.cons_eq_cons.1 hcounted

theorem push_slots (h : s.Shows l) (a : UInt16) :
    (s.push a).slots = s.slots.setIfInBounds l.length a := by
  rw [CallStack.push, h.pointer]

theorem push_pointer (h : s.Shows l) (a : UInt16) :
    (s.push a).pointer.toNat = (l.length + 1) % 256 := by
  rw [CallStack.push, UInt8.toNat_add, h.pointer]
  rfl

/-- The addresses below a push are the ones before it. -/
theorem push_counted (h : s.Shows l) (a : UInt16) : (s.push a).counted l.length = l := by
  rw [counted_of_set (le_refl _) (h.push_slots a), h.counted]

theorem push_room (h : s.Shows l) (hroom : l.length < 16) : (s.push a).Shows (a :: l) where
  pointer := by rw [h.push_pointer, Nat.mod_eq_of_lt (by omega), List.length_cons]
  counted := by
    have hmin : min l.length 15 = l.length := by omega
    rw [List.length_cons, CallStack.counted, h.push_counted]
    simp only [hmin, h.push_slots]
    rw [Vector.getElem_setIfInBounds_self]

/-- Nothing is written, and the address on top is in the last slot. -/
theorem push_full (h : s.Shows l) (hfull : ¬ l.length < 16) (hlt : l.length < 255) :
    (s.push a).Shows (l.headD a :: l) where
  pointer := by rw [h.push_pointer, Nat.mod_eq_of_lt (by omega), List.length_cons]
  counted := by
    obtain ⟨b, l', rfl⟩ : ∃ b l', l = b :: l' := List.exists_cons_of_length_pos (by omega)
    rw [List.length_cons] at hfull
    have hlast : s.slots[15] = b := by
      have hmin : min l'.length 15 = 15 := by omega
      simpa only [hmin] using h.top.1
    have hmin : min (l'.length + 1) 15 = 15 := by omega
    rw [List.length_cons, CallStack.counted, h.push_counted, List.headD_cons]
    simp only [List.length_cons, hmin, h.push_slots]
    rw [Vector.getElem_setIfInBounds_ne _ (by omega), hlast]

/-- The pointer starts anew. -/
theorem push_last (h : s.Shows l) (hlast : l.length = 255) : (s.push a).Shows [] where
  pointer := by rw [h.push_pointer, hlast]; rfl
  counted := rfl

theorem length_lt (h : s.Shows l) : l.length < 256 := by
  rw [← h.pointer]
  exact s.pointer.toNat_lt

theorem pop (h : s.Shows l) (hl : l ≠ []) : some s.pop.1 = l.head? ∧ s.pop.2.Shows l.tail := by
  obtain ⟨b, l, rfl⟩ := List.exists_cons_of_ne_nil hl
  have hp : s.pointer.toNat = l.length + 1 := h.pointer
  have htop : (s.pointer - 1).toNat = l.length := by
    rw [toNat_pred (by omega), hp, Nat.add_sub_cancel]
  obtain ⟨hhead, htail⟩ := h.top
  refine ⟨?_, ?_, ?_⟩
  · simp only [CallStack.pop, htop, hhead, List.head?_cons]
  · exact htop
  · have hslots : s.pop.2.slots = s.slots.setIfInBounds l.length 0 := by
      simp only [CallStack.pop, htop]
    exact (counted_of_set (le_refl _) hslots).trans htail

/-- **What a request does** to a stack and to the list that it shows. -/
theorem meet {r : Request} (h : s.Shows l) (hr : FindsAddress l r) :
    (unchecked s r).2 = (overrunning l r).2 ∧ (unchecked s r).1.Shows (overrunning l r).1 := by
  cases r with
  | pop => exact h.pop hr
  | push a =>
    refine ⟨rfl, ?_⟩
    simp only [unchecked, overrunning]
    split_ifs with hroom hlt
    · exact h.push_room hroom
    · exact h.push_full hroom hlt
    · exact h.push_last (by have := h.length_lt; omega)

theorem isFull_iff (h : s.Shows l) : s.isFull = true ↔ 16 ≤ l.length := by
  rw [CallStack.isFull_iff, h.pointer]

theorem isEmpty_iff (h : s.Shows l) : s.isEmpty = true ↔ l = [] := by
  rw [CallStack.isEmpty_iff, h.pointer, List.length_eq_zero_iff]

end Shows

/-! ## All requests -/

/-- From the empty stack, the answers to some requests and the stack that is left are those of a
    keeper of lists: the pointer is the length, and the two tests tell sixteen addresses or more
    and none. -/
structure Follows (k : Keeper (List UInt16)) (rs : List Request) : Prop where
  answers : unchecked.answers empty rs = k.answers [] rs
  pointer : (unchecked.after empty rs).pointer.toNat = (k.after [] rs).length
  isFull : (unchecked.after empty rs).isFull = true ↔ 16 ≤ (k.after [] rs).length
  isEmpty : (unchecked.after empty rs).isEmpty = true ↔ k.after [] rs = []

variable {rs : List Request}

theorem Shows.follows {k : Keeper (List UInt16)}
    (hanswers : unchecked.answers empty rs = k.answers [] rs)
    (hshows : (unchecked.after empty rs).Shows (k.after [] rs)) : Follows k rs where
  answers := hanswers
  pointer := hshows.pointer
  isFull := hshows.isFull_iff
  isEmpty := hshows.isEmpty_iff

theorem follows_overrunning (hrs : overrunning.Always FindsAddress [] rs) :
    Follows overrunning rs := by
  obtain ⟨hanswers, hshows⟩ := Keeper.simulates (fun _ _ _ => Shows.meet) shows_empty hrs
  exact hshows.follows hanswers

theorem follows_bounded (hrs : bounded.Always Fits [] rs) : Follows bounded rs := by
  have hmeet : ∀ s l r, Shows s l → Fits l r →
      (unchecked s r).2 = (bounded l r).2 ∧ (unchecked s r).1.Shows (bounded l r).1 := by
    intro s l r hshows hr
    rw [hr.bounded_eq_overrunning]
    exact hshows.meet hr.findsAddress
  obtain ⟨hanswers, hshows⟩ := Keeper.simulates hmeet shows_empty hrs
  exact hshows.follows hanswers

/-- The first push that does not fit moves the pointer and not the length, and a pop that finds
    nothing answers all the same. -/
theorem fits_of_follows (h : ∀ rs', rs' <+: rs → Follows bounded rs') :
    bounded.Always Fits [] rs := by
  induction rs using List.reverseRecOn with
  | nil => trivial
  | append_singleton rs r ih =>
    have hfits := ih fun rs' hrs' => h rs' (hrs'.trans (List.prefix_append rs [r]))
    have hbefore := h rs (List.prefix_append rs [r])
    have hafter := h (rs ++ [r]) (List.prefix_refl _)
    refine Keeper.always_append.2 ⟨hfits, ?_, trivial⟩
    cases r with
    | push a =>
      by_contra hfull
      have hfull : ¬ (bounded.after [] rs).length < 16 := hfull
      have hlength : (bounded.after [] rs).length = 16 :=
        le_antisymm (length_bounded_after_le rs) (not_lt.1 hfull)
      have hsame : bounded.after [] (rs ++ [.push a]) = bounded.after [] rs := by
        rw [Keeper.after_append]
        exact if_neg hfull
      have hmoved : (unchecked.after empty (rs ++ [.push a])).pointer =
          (unchecked.after empty rs).pointer + 1 := by
        rw [Keeper.after_append]
        rfl
      have hpointer := hafter.pointer
      rw [hsame, hmoved, UInt8.toNat_add, hbefore.pointer, hlength] at hpointer
      cases hpointer
    | pop =>
      intro hnone
      have hanswers := hafter.answers
      rw [Keeper.answers_append, Keeper.answers_append, hbefore.answers, hnone] at hanswers
      cases List.append_cancel_left hanswers

/-- **The stack is a bounded list until it overruns.**  Whatever the requests: from the empty
    stack they are met, up to each of them, as by a list of at most sixteen addresses, where every
    pop gives the latest address that is left and a push onto sixteen changes nothing, iff every
    pop finds an address and no push finds sixteen.  As long as every pop finds an address, they
    are met as by a list on which a push onto sixteen or more repeats the address on top, up to
    255 addresses, and the next one leaves none. -/
theorem lifo_until_overrun (rs : List Request) :
    ((∀ rs', rs' <+: rs → Follows bounded rs') ↔ bounded.Always Fits [] rs) ∧
      (bounded.after [] rs).length ≤ 16 ∧
      (overrunning.Always FindsAddress [] rs → Follows overrunning rs) := by
  refine ⟨⟨fits_of_follows, ?_⟩, length_bounded_after_le rs, follows_overrunning⟩
  rintro hrs rs' ⟨rs'', rfl⟩
  exact follows_bounded (Keeper.always_append.1 hrs).1

/-- Pushes of the addresses 1 to `n`, then `m` pops. -/
def pushesThenPops (n m : ℕ) : List Request :=
  (List.range n).map (fun i => .push (.ofNat (i + 1))) ++ List.replicate m .pop

/-- Sixteen pushes and as many pops; seventeen pushes and as many pops. -/
theorem lifo_until_overrun_seventeen :
    bounded.Always Fits [] (pushesThenPops 16 16) ∧ Follows bounded (pushesThenPops 16 16) ∧
      ¬ bounded.Always Fits [] (pushesThenPops 17 17) ∧
      overrunning.Always FindsAddress [] (pushesThenPops 17 17) ∧
      Follows overrunning (pushesThenPops 17 17) :=
  have hfits : bounded.Always Fits [] (pushesThenPops 16 16) := by decide
  have hfinds : overrunning.Always FindsAddress [] (pushesThenPops 17 17) := by decide
  ⟨hfits, (lifo_until_overrun _).1.2 hfits _ (List.prefix_refl _), by decide, hfinds,
    (lifo_until_overrun _).2.2 hfinds⟩

/-- A push onto a full stack is not as if it had not been made.  After seventeen pushes the
    pointer is 17, where dropping the last one leaves sixteen addresses; and of two pops, both
    give the sixteenth address, where the second one should give the fifteenth. -/
theorem overrun_is_counted :
    bounded.Always FindsAddress [] (pushesThenPops 17 2) ∧
      (unchecked.after empty (pushesThenPops 17 0)).pointer.toNat = 17 ∧
      (bounded.after [] (pushesThenPops 17 0)).length = 16 ∧
      (unchecked.answers empty (pushesThenPops 17 2)).drop 17 = [some 16, some 16] ∧
      (bounded.answers [] (pushesThenPops 17 2)).drop 17 = [some 16, some 15] := by
  decide

end Chip8.CallStack
