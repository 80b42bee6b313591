/-
  Hosts — frames until the host is halted.

  Frames are run one after another, as many as are asked for or until the host is halted,
  and the display after each is kept.  The frame that halts the host is run and its display
  kept like any other, but it is not counted by the host.

  * `afterFrames`, `displays`: the host after so many frames, and the displays after each;
  * `haltFrame`: the first frame after which the host is halted, if there is one;
  * `runFrames_eq`: the frames that are run are those up to it, and no more than asked for;
  * `halted_afterFrames_iff`, `frameCount_afterFrames`: whether the host is halted then, and
    what it has counted.
-/
import Chip8.Program.Headless
import Chip8.Proofs.HostOperations
import Mathlib.Data.ENat.Lattice

namespace Chip8.Host

variable {h : Host} {m n : ℕ}

/-- The host after a number of frames. -/
def afterFrames (h : Host) : ℕ → Host
  | 0 => h
  | j + 1 => h.runFrame.1.afterFrames j

/-- The displays after each of so many frames. -/
def displays (h : Host) (m : ℕ) : List Display :=
  (List.range m).map fun j => (h.afterFrames (j + 1)).machine.display

theorem length_displays (h : Host) (m : ℕ) : (h.displays m).length = m := by
  rw [displays, List.length_map, List.length_range]

theorem displays_succ (h : Host) (m : ℕ) :
    h.displays (m + 1) = h.runFrame.1.machine.display :: h.runFrame.1.displays m := by
  rw [displays, List.range_succ_eq_map, List.map_cons, List.map_map]
  rfl

/-- The last display is that of the host at the end. -/
theorem getLast?_displays (h : Host) (hm : 0 < m) :
    (h.displays m).getLast? = some (h.afterFrames m).machine.display := by
  obtain ⟨k, rfl⟩ := Nat.exists_eq_add_one_of_ne_zero hm.ne'
  rw [displays, List.range_succ, List.map_append, List.map_singleton, List.getLast?_concat]

/-! ## One frame

The instructions of a frame must be fewer than can be counted in 32 bits. -/

theorem config_runFrame (h : Host) : h.runFrame.1.config = h.config :=
  (h.setup_performAll [.frame]).config

theorem runFrame_of_fits (hq : h.config.instructionsPerFrame < 2 ^ 31) :
    h.runFrame = ((h.oneByOne h.config.instructionsPerFrame).1.finishFrames 1,
      .ok (h.oneByOne h.config.instructionsPerFrame).2) := by
  have hcount : (h.config.instructionsPerFrame : ℤ) < 2 ^ 31 := by exact_mod_cast hq
  have hrun := h.runInstructions_eq hcount
  rw [Int.toNat_natCast] at hrun
  rw [runFrame, hrun]

/-- A frame is counted unless the host is halted after it. -/
theorem frameCount_runFrame (hq : h.config.instructionsPerFrame < 2 ^ 31) :
    h.runFrame.1.frameCount + (if h.runFrame.1.halted then 1 else 0) = h.frameCount + 1 := by
  have hsame := h.frameCount_oneByOne h.config.instructionsPerFrame
  rw [runFrame_of_fits hq]
  unfold finishFrames
  cases hh : (h.oneByOne h.config.instructionsPerFrame).1.halted with
  | true => simp [hh, hsame]
  | false => simp [tickTimers, hh, hsame]

/-! ## The frame that halts -/

/-- The number of the first frame after which the host is halted, `⊤` if there is none. -/
noncomputable def haltFrame (h : Host) : ℕ∞ :=
  sInf {k | ∃ j : ℕ, k = j ∧ 0 < j ∧ (h.afterFrames j).halted = true}

theorem haltFrame_le {j : ℕ} (hj : 0 < j) (hh : (h.afterFrames j).halted = true) :
    h.haltFrame ≤ j :=
  sInf_le ⟨j, rfl, hj, hh⟩

theorem haltFrame_cases (h : Host) :
    h.haltFrame = ⊤ ∨ ∃ j : ℕ, h.haltFrame = j ∧ 0 < j ∧ (h.afterFrames j).halted = true := by
  rcases Set.eq_empty_or_nonempty
    {k : ℕ∞ | ∃ j : ℕ, k = j ∧ 0 < j ∧ (h.afterFrames j).halted = true} with hnone | hsome
  · left
    rw [haltFrame, hnone, sInf_empty]
  · exact Or.inr (csInf_mem hsome)

theorem haltFrame_of_halted (hstop : h.runFrame.1.halted = true) : h.haltFrame = 1 := by
  refine le_antisymm (haltFrame_le Nat.one_pos hstop) ?_
  rcases h.haltFrame_cases with htop | ⟨j, hj, hpos, -⟩
  · rw [htop]
    exact le_top
  · rw [hj]
    exact_mod_cast hpos

/-- A host that goes on after a frame is halted one frame later than from there. -/
theorem haltFrame_of_going (hgo : h.runFrame.1.halted = false) :
    h.haltFrame = h.runFrame.1.haltFrame + 1 := by
  apply le_antisymm
  · rcases h.runFrame.1.haltFrame_cases with htop | ⟨j, hj, -, hh⟩
    · rw [htop]
      exact le_top
    · rw [hj]
      exact_mod_cast haltFrame_le (h := h) (Nat.succ_pos j) hh
  · rcases h.haltFrame_cases with htop | ⟨j, hj, hpos, hh⟩
    · rw [htop]
      exact le_top
    · obtain ⟨k, rfl⟩ := Nat.exists_eq_add_one_of_ne_zero hpos.ne'
      -- it is not the first frame that halts it
      have hk : 0 < k := by
        rcases Nat.eq_zero_or_pos k with rfl | hk
        · rw [afterFrames, afterFrames, hgo] at hh
          cases hh
        · exact hk
      have hle : h.runFrame.1.haltFrame ≤ k := haltFrame_le hk hh
      rw [hj]
      exact_mod_cast add_le_add_left hle 1

/-! ## The loop -/

/-- There are as many frames as are asked for, or as there are up to the one that halts. -/
theorem exists_frames (h : Host) (n : ℕ) : ∃ m : ℕ, (m : ℕ∞) = min ↑n h.haltFrame :=
  ENat.ne_top_iff_exists.1 (ne_top_of_le_ne_top (ENat.natCast_ne_top n) (min_le_left _ _))

/-- **Frames are run until one halts the host**, or there are as many as were asked for. -/
theorem runFrames_eq (hq : 0 < n → h.config.instructionsPerFrame < 2 ^ 31)
    (hm : (m : ℕ∞) = min ↑n h.haltFrame) :
    h.runFrames n = (h.afterFrames m, .ok (h.displays m)) := by
  induction n generalizing h m with
  | zero =>
    have hzero : m = 0 := by simpa using hm
    rw [hzero]
    rfl
  | succ n ih =>
    have hframe : h.runFrame = (h.runFrame.1, .ok (h.runFrame.2.toOption.getD false)) := by
      rw [runFrame_of_fits (hq n.succ_pos)]
      rfl
    rw [runFrames, hframe]
    cases hstop : h.runFrame.1.halted with
    | true =>
      have hone : m = 1 := by
        rw [haltFrame_of_halted hstop] at hm
        simpa using hm
      rw [hone]
      simp [hstop, afterFrames, displays]
    | false =>
      obtain ⟨k, hk⟩ := h.runFrame.1.exists_frames n
      have hsucc : m = k + 1 := by
        rw [haltFrame_of_going hstop, Nat.cast_succ, min_add_add_right, ← hk] at hm
        exact_mod_cast hm
      have hrest := ih (h := h.runFrame.1) (fun _ => h.config_runFrame ▸ hq n.succ_pos) hk
      rw [hsucc, displays_succ]
      simp [hstop, hrest, afterFrames, Except.map]

theorem halted_afterFrames_iff (hgo : h.halted = false) (hm : (m : ℕ∞) = min ↑n h.haltFrame) :
    (h.afterFrames m).halted = true ↔ h.haltFrame ≤ n := by
  constructor
  · intro hstop
    have hpos : 0 < m := by
      rcases Nat.eq_zero_or_pos m with rfl | hpos
      · rw [afterFrames, hgo] at hstop
        cases hstop
      · exact hpos
    calc h.haltFrame ≤ m := haltFrame_le hpos hstop
      _ ≤ n := hm.trans_le (min_le_left _ _)
  · intro hle
    rw [min_eq_right hle] at hm
    rcases h.haltFrame_cases with htop | ⟨j, hj, -, hh⟩
    · rw [htop] at hm
      cases hm
    · have hmj : m = j := by exact_mod_cast hm.trans hj
      rw [hmj]
      exact hh

/-- **The host counts every frame but the one that halts it.** -/
theorem frameCount_afterFrames (hq : 0 < m → h.config.instructionsPerFrame < 2 ^ 31)
    (hgo : h.halted = false) (hm : (m : ℕ∞) ≤ h.haltFrame) :
    (h.afterFrames m).frameCount + (if (h.afterFrames m).halted then 1 else 0) =
      h.frameCount + m := by
  induction m generalizing h with
  | zero => simp [afterFrames, hgo]
  | succ m ih =>
    have hframe := frameCount_runFrame (hq m.succ_pos)
    rw [afterFrames]
    cases hstop : h.runFrame.1.halted with
    | true =>
      have hzero : m = 0 := by
        rw [haltFrame_of_halted hstop] at hm
        have hle : m + 1 ≤ 1 := by exact_mod_cast hm
        omega
      rw [hzero]
      exact hframe
    | false =>
      have hle : (m : ℕ∞) ≤ h.runFrame.1.haltFrame := by
        rw [haltFrame_of_going hstop, Nat.cast_succ] at hm
        exact (ENat.add_le_add_iff_right ENat.one_ne_top).1 hm
      have hrest := ih (h := h.runFrame.1) (fun _ => h.config_runFrame ▸ hq m.succ_pos) hstop hle
      rw [hstop] at hframe
      rw [hrest, ← Nat.add_assoc, Nat.add_right_comm, ← hframe]
      rfl

end Chip8.Host
