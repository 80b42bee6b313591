/-
  Sound — the beeper acts on edges.

  An edge is a place where the signal is another than before it, the signal having been off at
  first.  The tone is started at the first edge, stopped at the second, and so on.

  * `edges`: how many edges a signal has;
  * `Acted`: what is known of a beeper that has met a number of edges;
  * `Acted.update`, `Acted.updateAll`: one signal more, and several;
  * `acts_on_edges`: what a new beeper does, with a tone and without one.
-/
import Chip8.Sound.Beeper
import Mathlib.Tactic

namespace Chip8

namespace ToneCall

/-- So many calls in turn, of which the first starts the tone. -/
def inTurn (n : ℕ) : List ToneCall :=
  (List.range n).map fun i => if i % 2 = 0 then .play else .stop

theorem inTurn_succ (n : ℕ) :
    inTurn (n + 1) = inTurn n ++ [if n % 2 = 0 then .play else .stop] := by
  simp [inTurn, List.range_succ]

/-- In turn, a tone is started as often as it is stopped, or once more. -/
theorem count_inTurn (n : ℕ) :
    (inTurn n).count .play = (inTurn n).count .stop + n % 2 := by
  induction n with
  | zero => rfl
  | succ n ih =>
    rw [inTurn_succ, List.count_append, List.count_append, ih]
    rcases Nat.mod_two_eq_zero_or_one n with h | h
    · simp [h]
      omega
    · simp [h]
      omega

end ToneCall

/-- How often a signal changes, if it was `previous` before. -/
def edges (previous : Bool) : List Bool → ℕ
  | [] => 0
  | active :: rest => (if active = previous then 0 else 1) + edges active rest

namespace Beeper

/-- A beeper after it was told several signals. -/
def updateAll (b : Beeper Bool) (signals : List Bool) : Beeper Bool := signals.foldl update b

/-- What a beeper holds to be playing after each of several signals. -/
def trace (b : Beeper Bool) : List Bool → List Bool
  | [] => []
  | active :: rest => (b.update active).playing :: (b.update active).trace rest

variable {b : Beeper Bool} {n : ℕ}

theorem update_of_same (b : Beeper Bool) : b.update b.playing = b := by
  simp [update, Signal.same]

theorem update_of_edge {active : Bool} (h : active ≠ b.playing) :
    b.update active =
      { b with
        playing := active
        calls := if b.audible then b.calls ++ [if active then .play else .stop] else b.calls } := by
  simp [update, Signal.same, Signal.isActive, h]

theorem playing_update (b : Beeper Bool) (active : Bool) : (b.update active).playing = active := by
  by_cases h : active = b.playing
  · rw [h, update_of_same]
  · rw [update_of_edge h]

theorem playing_updateAll (b : Beeper Bool) (signals : List Bool) :
    (b.updateAll signals).playing = signals.getLastD b.playing := by
  induction signals using List.reverseRecOn with
  | nil => rfl
  | append_singleton signals active _ =>
    rw [updateAll, List.foldl_concat, playing_update, List.getLastD_concat]

theorem trace_eq (b : Beeper Bool) (signals : List Bool) : b.trace signals = signals := by
  induction signals generalizing b with
  | nil => rfl
  | cons active rest ih => rw [trace, playing_update, ih]

/-- **What is known of a beeper with a tone that has met `n` edges.** -/
structure Acted (b : Beeper Bool) (n : ℕ) : Prop where
  audible : b.audible = true
  playing : b.playing = decide (n % 2 = 1)
  calls : b.calls = ToneCall.inTurn n

theorem acted_fresh : (fresh true).Acted 0 := ⟨rfl, rfl, rfl⟩

/-- The tone is started at an edge after an even number of them, and stopped after an odd one. -/
theorem Acted.update (hb : b.Acted n) (active : Bool) :
    (b.update active).Acted (n + if active = b.playing then 0 else 1) := by
  by_cases h : active = b.playing
  · rw [if_pos h, h, update_of_same]
    exact hb
  · have hactive : active = decide (n % 2 = 0) := by
      have hne := hb.playing ▸ h
      rcases Nat.mod_two_eq_zero_or_one n with hn | hn
      · simpa [hn] using hne
      · simpa [hn] using hne
    rw [if_neg h, update_of_edge h]
    refine ⟨hb.audible, ?_, ?_⟩
    · show active = _
      rw [hactive, decide_eq_decide]
      omega
    · show (if b.audible = true then _ else _) = _
      rw [if_pos hb.audible, hb.calls, ToneCall.inTurn_succ, hactive]
      simp only [decide_eq_true_eq]

theorem Acted.updateAll (hb : b.Acted n) (signals : List Bool) :
    (b.updateAll signals).Acted (n + edges b.playing signals) := by
  induction signals generalizing b n with
  | nil => exact hb
  | cons active rest ih =>
    have hrest := ih (hb.update active)
    rw [playing_update, Nat.add_assoc] at hrest
    exact hrest

/-- A beeper without a tone makes no call. -/
theorem silent_update (hb : b.audible = false) (active : Bool) :
    (b.update active).audible = false ∧ (b.update active).calls = b.calls := by
  by_cases h : active = b.playing
  · rw [h, update_of_same]
    exact ⟨hb, rfl⟩
  · rw [update_of_edge h]
    exact ⟨hb, if_neg (by simp [hb])⟩

theorem silent_updateAll (hb : b.audible = false) (signals : List Bool) :
    (b.updateAll signals).calls = b.calls := by
  induction signals generalizing b with
  | nil => rfl
  | cons active rest ih =>
    obtain ⟨hsilent, hcalls⟩ := silent_update hb active
    exact (ih hsilent).trans hcalls

/-- **The beeper acts exactly on edges.**  Whatever signals it is told, with a tone or without,
    a new beeper holds after each of them that it is playing iff the signal was on.  Without
    a tone it makes no call.  With one its calls are in turn and as many as the edges of the
    signal, and it has started the tone as often as it has stopped it, and once more iff it
    is playing. -/
theorem acts_on_edges (signals : List Bool) :
    (∀ audible, (fresh audible).trace signals = signals ∧
      ((fresh audible).updateAll signals).playing = signals.getLastD false) ∧
    ((fresh false).updateAll signals).calls = [] ∧
    let b := (fresh true).updateAll signals
    b.calls = ToneCall.inTurn (edges false signals) ∧
      b.calls.length = edges false signals ∧
      b.calls.count .play = b.calls.count .stop + if b.playing then 1 else 0 := by
  have hacted := acted_fresh.updateAll signals
  rw [Nat.zero_add] at hacted
  refine ⟨fun audible => ⟨trace_eq _ signals, playing_updateAll _ signals⟩,
    silent_updateAll rfl signals, hacted.calls, ?_, ?_⟩
  · rw [hacted.calls, ToneCall.inTurn, List.length_map, List.length_range]
    rfl
  · rw [hacted.calls, hacted.playing, ToneCall.count_inTurn]
    split_ifs with h
    · rw [of_decide_eq_true h]
    · have hodd := of_decide_eq_false (Bool.eq_false_iff.2 h)
      omega

end Beeper

end Chip8
