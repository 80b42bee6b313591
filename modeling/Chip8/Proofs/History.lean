/-
  CHIP-8 machine — the instructions performed since a machine was started.

  A `Session` is a machine with the instructions it has performed since power-on
  or the last restart, each with the program counters before and after it.  A step
  that faults performs none.

  * `Machine.perform_cases`: what an operation other than a restart does, as steps, a
    stimulus, or a change of memory and program counter;
  * `Session.performAll_induction`: what holds at the start of a machine, and is
    kept by a step, by a stimulus, by loading a program and by skipping a word,
    holds after any sequence of operations.
-/
import Chip8.Proofs.Operations

namespace Chip8

/-- An instruction that was performed, where, and where it led. -/
structure Executed where
  pc : UInt16
  instruction : Instruction
  pcAfter : UInt16

/-- The instructions performed since a machine was started, in order. -/
abbrev History := List Executed

namespace Machine

/-- What a step performs. -/
def executed (m : Machine) : History :=
  match m.next with
  | .ok i => [⟨m.pc, i, m.step.machine.pc⟩]
  | .error _ => []

theorem executed_of_ok {m : Machine} {i : Instruction} (h : m.next = .ok i) :
    m.executed = [⟨m.pc, i, m.step.machine.pc⟩] := by
  simp only [executed, h]

theorem executed_of_error {m : Machine} {f : Fault} (h : m.next = .error f) :
    m.executed = [] := by
  simp only [executed, h]

/-- What `n` steps perform, in order. -/
def trail (m : Machine) : ℕ → History
  | 0 => []
  | n + 1 => m.executed ++ m.step.machine.trail n

/-- From a fault on nothing is performed. -/
theorem trail_of_fault {m : Machine} {f : Fault} (h : m.step.fault = some f) (n : ℕ) :
    m.trail n = [] := by
  have hnext := step_fault_eq_some_iff.1 h
  induction n with
  | zero => rfl
  | succ n ih => rw [trail, executed_of_error hnext, step_of_error hnext, ih, List.nil_append]

/-- What an operation performs. -/
def executedBy (m : Machine) : Operation → History
  | .step => m.executed
  | .run n => if IntegerType.int32.holds n then m.trail n.toNat else []
  | _ => []

/-- **What an operation does** that does not start the machine anew: it makes so many steps,
    or it performs nothing and is a stimulus or touches memory and the program counter only. -/
theorem perform_cases (m : Machine) {o : Operation} (ho : o.restarts = false) :
    (∃ n, m.perform o = m.after n ∧ m.executedBy o = m.trail n) ∨
      m.executedBy o = [] ∧
        ((∃ s, o = .stimulus s) ∨ ∃ memory pc, m.perform o = { m with memory, pc }) := by
  cases o with
  | step => exact Or.inl ⟨1, rfl, (List.append_nil _).symm⟩
  | run n =>
    simp only [perform, runInt, executedBy]
    split_ifs
    · exact Or.inl ⟨n.toNat, m.run_machine n.toNat, rfl⟩
    · exact Or.inl ⟨0, rfl, rfl⟩
  | stimulus s => exact Or.inr ⟨rfl, Or.inl ⟨s, rfl⟩⟩
  | load rom max =>
    refine Or.inr ⟨rfl, Or.inr ?_⟩
    simp only [perform]
    cases hl : m.loadRom rom max with
    | error e => exact ⟨m.memory, m.pc, rfl⟩
    | ok m' =>
      rw [loadRom_eq m hl]
      exact ⟨_, m.pc, rfl⟩
  | skipWord =>
    refine Or.inr ⟨rfl, Or.inr ?_⟩
    simp only [perform, skipWord]
    split_ifs
    · exact ⟨m.memory, m.pc, rfl⟩
    · exact ⟨m.memory, _, rfl⟩
  | reset | restart config rom => cases ho

/-- What several operations perform, also before the machine is started anew. -/
def performed (m : Machine) : List Operation → History
  | [] => []
  | o :: ops => m.executedBy o ++ (m.perform o).performed ops

theorem performed_append (m : Machine) (before after : List Operation) :
    m.performed (before ++ after) =
      m.performed before ++ (m.performAll before).performed after := by
  induction before generalizing m with
  | nil => rfl
  | cons o before ih =>
    rw [List.cons_append, performed, performed, ih, List.append_assoc]
    rfl

/-- Operations that are neither steps nor runs perform nothing. -/
theorem performed_eq_nil {ops : List Operation} (hops : ∀ o ∈ ops, ∀ m, executedBy m o = [])
    (m : Machine) : m.performed ops = [] := by
  induction ops generalizing m with
  | nil => rfl
  | cons o ops ih =>
    rw [performed, hops o List.mem_cons_self, ih fun o ho => hops o (List.mem_cons_of_mem _ ho)]
    rfl

end Machine

/-- A machine and what it has performed since it was started. -/
structure Session where
  machine : Machine
  history : History

namespace Session

/-- Nothing has been performed. -/
def start (m : Machine) : Session := ⟨m, []⟩

/-- A session after an operation. -/
def perform (s : Session) (o : Operation) : Session where
  machine := s.machine.perform o
  history := if o.restarts then [] else s.history ++ s.machine.executedBy o

/-- A session after several operations. -/
def performAll (s : Session) (ops : List Operation) : Session := ops.foldl perform s

theorem machine_performAll (s : Session) (ops : List Operation) :
    (s.performAll ops).machine = s.machine.performAll ops := by
  induction ops generalizing s with
  | nil => rfl
  | cons o ops ih => exact ih (s.perform o)

section
variable {P : Machine → History → Prop}
  (hstart : ∀ key rom, P ((Machine.powerOn key).withRom rom) [])
  (hstep : ∀ m h, P m h → P m.step.machine (h ++ m.executed))
  (hreceive : ∀ m h s, P m h → P (m.receive s) h)
  (hload : ∀ m h rom, P m h → P (m.withRom rom) h)
  (hskip : ∀ m h, P m h → P m.skipWord h)
include hstep

theorem after_induction (n : ℕ) {m : Machine} {h : History} (hP : P m h) :
    P (m.after n) (h ++ m.trail n) := by
  induction n generalizing m h with
  | zero => simpa [Machine.after, Machine.trail] using hP
  | succ n ih =>
    have := ih (hstep m h hP)
    rwa [List.append_assoc] at this

include hstart hreceive hload hskip

theorem perform_induction (o : Operation) {m : Machine} {h : History} (hP : P m h) :
    P (Session.perform ⟨m, h⟩ o).machine (Session.perform ⟨m, h⟩ o).history := by
  cases o with
  | step => exact hstep m h hP
  | run n =>
    simp only [perform, Operation.restarts, Machine.perform, Machine.runInt, Machine.executedBy]
    split
    · have := after_induction hstep n.toNat hP
      rwa [← Machine.run_machine] at this
    · simpa [Except.toOption] using hP
  | stimulus s =>
    show P (m.receive s) (h ++ [])
    rw [List.append_nil]
    exact hreceive m h s hP
  | load rom max =>
    show P ((m.loadRom rom max).toOption.getD m) (h ++ [])
    rw [List.append_nil]
    cases hl : m.loadRom rom max with
    | error e => exact hP
    | ok m' => exact Machine.loadRom_eq m hl ▸ hload m h rom hP
  | skipWord =>
    show P m.skipWord (h ++ [])
    rw [List.append_nil]
    exact hskip m h hP
  | reset =>
    show P (Machine.powerOn m.seedKey) []
    rw [← Machine.withRom_nil (Machine.powerOn m.seedKey)]
    exact hstart m.seedKey []
  | restart config rom => exact hstart (.ofSeed config.seed) rom

/-- **Induction over a session.** -/
theorem performAll_induction (ops : List Operation) {m : Machine} {h : History}
    (hP : P m h) :
    P (Session.performAll ⟨m, h⟩ ops).machine (Session.performAll ⟨m, h⟩ ops).history := by
  induction ops generalizing m h with
  | nil => exact hP
  | cons o ops ih => exact ih (perform_induction hstart hstep hreceive hload hskip o hP)

end

end Session

end Chip8
