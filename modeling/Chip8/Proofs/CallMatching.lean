/-
  CHIP-8 machine — the call a return goes back to.

  A history says which calls are open: `openCalls` lists them, the latest first, on
  a list without bounds.  The matching call of a return is the latest one since
  which as many calls as returns were performed.

  * `Opens`: how a history splits into its open calls and balanced stretches;
  * `Refines.step`: the stack of a machine holds the addresses after the open calls;
  * `returns_match_calls`: hence every return goes to the word after its matching
    call, and at most sixteen calls are open.
-/
import Chip8.Proofs.Invariant

namespace Chip8

namespace Executed

def isCall (e : Executed) : Bool :=
  match e.instruction with
  | .call _ => true
  | _ => false

def isReturn (e : Executed) : Bool :=
  match e.instruction with
  | .ret => true
  | _ => false

/-- Where a return from a call goes. -/
def returnAddress (e : Executed) : ℕ := e.pc.toNat + 2

/-- The open calls after one more instruction. -/
def track (cs : List Executed) (e : Executed) : List Executed :=
  match e.instruction with
  | .call _ => e :: cs
  | .ret => cs.tail
  | _ => cs

end Executed

namespace History

/-! ## Calls and returns -/

/-- The number of calls. -/
def calls (h : History) : ℕ := h.countP Executed.isCall

/-- The number of returns. -/
def returns (h : History) : ℕ := h.countP Executed.isReturn

/-- Calls without returns. -/
def depth (h : History) : ℤ := h.calls - h.returns

variable {h h₁ h₂ : History} {c e : Executed}

@[simp] theorem depth_nil : depth [] = 0 := rfl

@[simp] theorem depth_append (h₁ h₂ : History) : depth (h₁ ++ h₂) = depth h₁ + depth h₂ := by
  simp only [depth, calls, returns, List.countP_append, Nat.cast_add]
  ring

theorem depth_cons (e : Executed) (h : History) : depth (e :: h) = depth [e] + depth h :=
  depth_append [e] h

theorem depth_call (hc : c.isCall) : depth [c] = 1 := by
  have hr : c.isReturn = false := by
    obtain ⟨pc, i, pcAfter⟩ := c
    cases i with
    | call nnn => rfl
    | _ => cases hc
  simp [depth, calls, returns, hc, hr]

theorem depth_return (he : e.isReturn) : depth [e] = -1 := by
  have hc : e.isCall = false := by
    obtain ⟨pc, i, pcAfter⟩ := e
    cases i with
    | ret => rfl
    | _ => cases he
  simp [depth, calls, returns, hc, he]

theorem depth_other (hc : e.isCall = false) (hr : e.isReturn = false) : depth [e] = 0 := by
  simp [depth, calls, returns, hc, hr]

/-! ## Balanced stretches -/

/-- As many calls as returns, and no more returns than calls on the way. -/
structure Balanced (h : History) : Prop where
  depth_eq : depth h = 0
  depth_nonneg : ∀ p, p <+: h → 0 ≤ depth p

theorem Balanced.nil : Balanced [] where
  depth_eq := rfl
  depth_nonneg p hp := by rw [List.prefix_nil.1 hp]; rfl

theorem Balanced.append (hb : Balanced h₁) (hb' : Balanced h₂) : Balanced (h₁ ++ h₂) where
  depth_eq := by rw [depth_append, hb.depth_eq, hb'.depth_eq]; rfl
  depth_nonneg p hp := by
    rcases List.prefix_or_prefix_of_prefix hp (List.prefix_append h₁ h₂) with hp' | ⟨q, rfl⟩
    · exact hb.depth_nonneg p hp'
    · rw [depth_append, hb.depth_eq, zero_add]
      exact hb'.depth_nonneg q ((List.prefix_append_right_inj h₁).1 hp)

theorem Balanced.other (hc : e.isCall = false) (hr : e.isReturn = false) : Balanced [e] where
  depth_eq := depth_other hc hr
  depth_nonneg p hp := by
    rcases List.prefix_cons_iff.1 hp with rfl | ⟨t, rfl, ht⟩
    · rfl
    · rw [List.prefix_nil.1 ht, depth_other hc hr]

theorem Balanced.enclose (hc : c.isCall) (hb : Balanced h) (he : e.isReturn) :
    Balanced (c :: h ++ [e]) where
  depth_eq := by rw [depth_append, depth_cons, depth_call hc, hb.depth_eq, depth_return he]; rfl
  depth_nonneg p hp := by
    rcases List.prefix_concat_iff.1 hp with rfl | hp
    · rw [depth_append, depth_cons, depth_call hc, hb.depth_eq, depth_return he]
      decide
    · rcases List.prefix_cons_iff.1 hp with rfl | ⟨t, rfl, ht⟩
      · rfl
      · have := hb.depth_nonneg t ht
        rw [depth_cons, depth_call hc]
        omega

/-! ## Open calls -/

/-- The calls that are open after a history, the latest first. -/
def openCalls (h : History) : List Executed := h.foldl Executed.track []

theorem openCalls_concat (h : History) (e : Executed) :
    openCalls (h ++ [e]) = Executed.track (openCalls h) e := by
  rw [openCalls, List.foldl_append]
  rfl

/-- A history with its open calls, the latest first.  Between them it is balanced. -/
inductive Opens : History → List Executed → Prop
  | none {b : History} : Balanced b → Opens b []
  | call {h b : History} {cs : List Executed} {c : Executed} :
      Opens h cs → c.isCall → Balanced b → Opens (h ++ c :: b) (c :: cs)

theorem Opens.append {cs : List Executed} {b : History} (ho : Opens h cs) (hb : Balanced b) :
    Opens (h ++ b) cs := by
  cases ho with
  | none hb' => exact .none (hb'.append hb)
  | call ho hc hb' =>
    rw [List.append_assoc, List.cons_append]
    exact .call ho hc (hb'.append hb)

theorem Opens.ret {cs : List Executed} (ho : Opens h (c :: cs)) (he : e.isReturn) :
    Opens (h ++ [e]) cs := by
  cases ho with
  | call ho hc hb =>
    rw [List.append_assoc]
    exact ho.append (.enclose hc hb he)

theorem Opens.depth_eq {cs : List Executed} (ho : Opens h cs) : depth h = cs.length := by
  induction ho with
  | none hb => exact hb.depth_eq
  | call _ hc hb ih =>
    rw [depth_append, depth_cons, depth_call hc, hb.depth_eq, ih, List.length_cons]
    push_cast
    ring

/-- The matching call of a return performed after `h`: the calls and returns since
    are balanced, and no later call has as many calls as returns after it. -/
def Matching (h : History) (c : Executed) : Prop :=
  ∃ h₁ h₂, h = h₁ ++ c :: h₂ ∧ c.isCall ∧ Balanced h₂ ∧
    ∀ h₁' c' h₂', h = h₁' ++ c' :: h₂' → c'.isCall → depth h₂' = 0 → h₁'.length ≤ h₁.length

/-- A return goes to the word after its matching call. -/
def ReturnsMatch (h : History) : Prop :=
  ∀ h₁ e h₂, h = h₁ ++ e :: h₂ → e.isReturn →
    ∃ c, Matching h₁ c ∧ e.pcAfter.toNat = c.returnAddress

theorem Opens.matching {cs : List Executed} (ho : Opens h (c :: cs)) : Matching h c := by
  cases ho with
  | @call h₁ b _ _ ho hc hb =>
    refine ⟨h₁, b, rfl, hc, hb, ?_⟩
    intro h₁' c' h₂' heq hc' hdepth
    by_contra hlt
    -- a later call lies within the balanced stretch, which before it would end below zero
    obtain ⟨t, ht⟩ : h₁ ++ [c] <+: h₁' := by
      refine List.prefix_of_prefix_length_le ⟨b, ?_⟩ ⟨c' :: h₂', heq.symm⟩ ?_
      · simp
      · simp; omega
    have hb' : b = t ++ c' :: h₂' := by
      rw [← ht] at heq
      simpa using heq
    have hnonneg := hb.depth_nonneg t ⟨c' :: h₂', hb'.symm⟩
    have hzero := hb.depth_eq
    rw [hb', depth_append, depth_cons, depth_call hc', hdepth] at hzero
    omega

theorem ReturnsMatch.concat (hr : ReturnsMatch h)
    (he : e.isReturn → ∃ c, Matching h c ∧ e.pcAfter.toNat = c.returnAddress) :
    ReturnsMatch (h ++ [e]) := by
  intro h₁ e' h₂ heq hret
  rcases List.eq_nil_or_concat h₂ with rfl | ⟨l, d, rfl⟩
  · obtain ⟨rfl, heq'⟩ := List.append_inj' heq rfl
    obtain ⟨rfl, -⟩ := List.cons_eq_cons.1 heq'
    exact he hret
  · have heq' : h ++ [e] = (h₁ ++ e' :: l) ++ [d] := by simpa using heq
    obtain ⟨rfl, -⟩ := List.append_inj' heq' rfl
    exact hr h₁ e' l rfl hret

end History

/-! ## The stack of a machine -/

namespace CallStack

/-- A stack holds the addresses that the open calls of a history return to. -/
structure Refines (s : CallStack) (h : History) : Prop where
  pending_eq : s.pending.map UInt16.toNat = h.openCalls.map Executed.returnAddress
  opens : h.Opens h.openCalls

namespace Refines

variable {s : CallStack} {h : History} {e : Executed}

theorem nil : CallStack.empty.Refines [] where
  pending_eq := rfl
  opens := .none .nil

theorem pointer_eq (hr : s.Refines h) (hs : s.Sound) :
    (s.pointer.toNat : ℤ) = h.calls - h.returns := by
  have hlen := congrArg List.length hr.pending_eq
  rw [List.length_map, List.length_map, length_pending hs.pointer_le] at hlen
  rw [hlen]
  exact hr.opens.depth_eq.symm

/-- On top of a stack is the address that the latest open call returns to. -/
theorem exists_top (hr : s.Refines h) (hs : s.Sound) (hne : s.pointer.toNat ≠ 0) :
    ∃ c cs, h.openCalls = c :: cs ∧ s.pop.1.toNat = c.returnAddress ∧
      s.pop.2.pending.map UInt16.toNat = cs.map Executed.returnAddress := by
  have heq := hr.pending_eq
  rw [pending_pop hne hs.pointer_le, List.map_cons] at heq
  cases hc : h.openCalls with
  | nil => rw [hc] at heq; cases heq
  | cons c cs =>
    rw [hc, List.map_cons] at heq
    obtain ⟨htop, hrest⟩ := List.cons_eq_cons.1 heq
    exact ⟨c, cs, rfl, htop, hrest⟩

theorem call (hr : s.Refines h) {nnn : Address} (he : e.instruction = .call nnn)
    (hlt : s.pointer.toNat < 16) {a : UInt16} (ha : a.toNat = e.returnAddress) :
    (s.push a).Refines (h ++ [e]) := by
  have hopen : History.openCalls (h ++ [e]) = e :: h.openCalls := by
    rw [History.openCalls_concat, Executed.track, he]
  refine ⟨?_, ?_⟩
  · rw [hopen, pending_push hlt, List.map_cons, List.map_cons, ha, hr.pending_eq]
  · rw [hopen]
    exact .call hr.opens (by rw [Executed.isCall, he]) .nil

theorem ret (hr : s.Refines h) (hs : s.Sound) (he : e.instruction = .ret)
    (hne : s.pointer.toNat ≠ 0) : s.pop.2.Refines (h ++ [e]) := by
  obtain ⟨c, cs, hc, -, hrest⟩ := hr.exists_top hs hne
  have hopen : History.openCalls (h ++ [e]) = cs := by
    rw [History.openCalls_concat, Executed.track, he, hc, List.tail_cons]
  have hopens := hr.opens
  rw [hc] at hopens
  refine ⟨?_, ?_⟩
  · rw [hopen, hrest]
  · rw [hopen]
    exact hopens.ret (by rw [Executed.isReturn, he])

theorem other (hr : s.Refines h) (hc : e.isCall = false) (hret : e.isReturn = false) :
    s.Refines (h ++ [e]) := by
  have hopen : History.openCalls (h ++ [e]) = h.openCalls := by
    rw [History.openCalls_concat]
    obtain ⟨pc, i, pcAfter⟩ := e
    cases i with
    | call nnn => cases hc
    | ret => cases hret
    | _ => rfl
  refine ⟨?_, ?_⟩
  · rw [hopen, hr.pending_eq]
  · rw [hopen]
    exact hr.opens.append (.other hc hret)

end Refines

end CallStack

namespace Machine

variable {m : Machine} {h : History} {i : Instruction}

/-- What a step performs keeps the stack in line with the history. -/
theorem Sound.refines_step (hm : m.Sound) (hr : m.stack.Refines h) :
    m.step.machine.stack.Refines (h ++ m.executed) := by
  rcases m.next_cases with ⟨i, hi⟩ | ⟨f, hf⟩
  · have hstack : m.step.machine.stack = (m.advancePc.apply i).stack := by rw [step_of_ok hi]
    rw [executed_of_ok hi, hstack, apply_stack]
    cases i with
    | call nnn =>
      refine hr.call (e := ⟨m.pc, .call nnn, _⟩) rfl (pointer_of_next_call hi) ?_
      rw [hm.exact.advance, Executed.returnAddress]
    | ret => exact hr.ret hm.stack rfl (pointer_of_next_ret hi)
    | _ => exact hr.other rfl rfl
  · rw [executed_of_error hf, List.append_nil, step_of_error hf]
    exact hr

/-- A return that is performed goes to the word after its matching call. -/
theorem Sound.returnsMatch_step (hm : m.Sound) (hr : m.stack.Refines h) (hh : h.ReturnsMatch) :
    History.ReturnsMatch (h ++ m.executed) := by
  rcases m.next_cases with ⟨i, hi⟩ | ⟨f, hf⟩
  · rw [executed_of_ok hi]
    refine hh.concat fun hret => ?_
    cases i with
    | ret =>
      obtain ⟨c, cs, hc, htop, -⟩ := hr.exists_top hm.stack (pointer_of_next_ret hi)
      have hopens := hr.opens
      rw [hc] at hopens
      exact ⟨c, hopens.matching, (hm.toNat_pc_step hi).trans htop⟩
    | _ => cases hret
  · rwa [executed_of_error hf, List.append_nil]

/-- What holds of a machine and its history. -/
structure Tracks (m : Machine) (h : History) : Prop where
  sound : m.Sound
  refines : m.stack.Refines h
  returnsMatch : h.ReturnsMatch

theorem tracks_powerOn (key : Key) (rom : Rom) : ((powerOn key).withRom rom).Tracks [] where
  sound := (sound_powerOn key).withRom rom
  refines := .nil
  returnsMatch := by
    intro h₁ e h₂ heq
    cases h₁ <;> cases heq

theorem Tracks.step (ht : m.Tracks h) : m.step.machine.Tracks (h ++ m.executed) where
  sound := ht.sound.step
  refines := ht.sound.refines_step ht.refines
  returnsMatch := ht.sound.returnsMatch_step ht.refines ht.returnsMatch

theorem Tracks.performAll (ht : m.Tracks h) (ops : List Operation) :
    (Session.performAll ⟨m, h⟩ ops).machine.Tracks (Session.performAll ⟨m, h⟩ ops).history := by
  refine Session.performAll_induction tracks_powerOn ?_ ?_ ?_ ?_ ops ht
  · exact fun m h ht => ht.step
  · intro m h s ht
    refine ⟨ht.sound.receive s, ?_, ht.returnsMatch⟩
    rw [receive_stack]
    exact ht.refines
  · exact fun m h rom ht => ⟨ht.sound.withRom rom, ht.refines, ht.returnsMatch⟩
  · intro m h ht
    refine ⟨ht.sound.skipWord, ?_, ht.returnsMatch⟩
    unfold skipWord
    split_ifs
    · exact ht.refines
    · exact ht.refines

/-- **Returns match calls.**  After any operations on a machine at power-on with a
    program, the number of used slots is that of calls without returns since the last
    restart, the stack holds the addresses that the open calls return to, and every
    return so far went to the word after its matching call.  A call beyond sixteen and
    a return without a call are faults that change nothing. -/
theorem returns_match_calls {seed : ℤ} {rom : Rom} {max : Value} {start : Machine}
    (hboot : boot seed rom max = .ok start) (ops : List Operation) :
    let s := (Session.start start).performAll ops
    let m := s.machine
    let depth : ℤ := s.history.calls - s.history.returns
    (m.stack.pointer.toNat = depth ∧ 0 ≤ depth ∧ depth ≤ 16) ∧
      m.stack.pending.map UInt16.toNat = s.history.openCalls.map Executed.returnAddress ∧
      s.history.ReturnsMatch ∧
      (∀ nnn : Address, m.pc.toNat + 1 < 4096 → m.word.toNat = 0x2000 + nnn → depth = 16 →
        m.step = ⟨m, some .stackOverflow, m.word, false⟩) ∧
      (m.pc.toNat + 1 < 4096 → m.word.toNat = 0x00EE → depth = 0 →
        m.step = ⟨m, some .stackUnderflow, m.word, false⟩) := by
  intro s m depth
  have hstart : start.Tracks [] := boot_eq hboot ▸ tracks_powerOn _ rom
  have ht : m.Tracks s.history := hstart.performAll ops
  have hpointer : (m.stack.pointer.toNat : ℤ) = depth := ht.refines.pointer_eq ht.sound.stack
  have hle := ht.sound.stack.pointer_le
  refine ⟨⟨hpointer, by omega, by omega⟩, ht.refines.pending_eq, ht.returnsMatch, ?_, ?_⟩
  · intro nnn hpc hw hdepth
    have hd : Instruction.decode? m.word = some (.call nnn) := Instruction.decode?_eq_some_iff.2 hw
    have hfull : m.stack.isFull = true := CallStack.isFull_iff.2 (by omega)
    exact step_of_error (by rw [next_of_call hpc hd, if_pos hfull])
  · intro hpc hw hdepth
    have hd : Instruction.decode? m.word = some .ret := Instruction.decode?_eq_some_iff.2 hw
    have hempty : m.stack.isEmpty = true := CallStack.isEmpty_iff.2 (by omega)
    exact step_of_error (by rw [next_of_ret hpc hd, if_pos hempty])

/-- A call from `0x200` to `0x204`, a tick, and the return to `0x202`. -/
theorem returns_match_calls_once :
    ∃ start, boot 0 [0x22, 0x04, 0x12, 0x02, 0x00, 0xEE] (.int 3584) = .ok start ∧
      let s := (Session.start start).performAll [.step, .stimulus .tick, .step]
      s.history.returns = 1 ∧ s.machine.pc = 0x202 ∧ s.history.ReturnsMatch := by
  have hboot : boot 0 [0x22, 0x04, 0x12, 0x02, 0x00, 0xEE] (.int 3584) =
      .ok ((powerOn (.ofSeed 0)).withRom _) := rfl
  exact ⟨_, hboot, by decide +kernel, by decide +kernel, (returns_match_calls hboot _).2.2.1⟩

end Machine

end Chip8
