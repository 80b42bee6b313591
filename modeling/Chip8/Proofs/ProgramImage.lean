/-
  CHIP-8 machine — programs in memory.

  A program is loaded byte by byte and fetched word by word.  `Rom.ofWords` packs words into
  bytes, the high byte of each first, and a fetch puts them together again.

  * `Rom.getElem?_ofWords`: where the bytes of a word stand;
  * `Machine.loadRom_limit`: which programs are refused;
  * `Machine.holdsRom_withRom`: what loading changes;
  * `Machine.HoldsRom.fetch`: a word of a program that is in memory is fetched as it is;
  * `Machine.load_then_fetch`: all of it, and that a program leaves no trace of a shorter one
    loaded before it.
-/
import Chip8.Proofs.Invariant
import Chip8.Proofs.Transfer

namespace Chip8

/-! ## Words as bytes -/

/-- The high byte of a word. -/
def highByte (w : UInt16) : UInt8 := .ofNat (w.toNat / 256)

/-- The low byte of a word. -/
def lowByte (w : UInt16) : UInt8 := .ofNat (w.toNat % 256)

theorem wordOfBytes_highByte_lowByte (w : UInt16) : wordOfBytes (highByte w) (lowByte w) = w := by
  have hw := w.toNat_lt
  refine UInt16.toNat_inj.1 ?_
  rw [toNat_wordOfBytes, highByte, lowByte, UInt8.toNat_ofNat', UInt8.toNat_ofNat']
  omega

namespace Rom

/-- The program of several words, the high byte of each first. -/
def ofWords (words : List UInt16) : Rom := words.flatMap fun w => [highByte w, lowByte w]

theorem ofWords_cons (w : UInt16) (words : List UInt16) :
    ofWords (w :: words) = highByte w :: lowByte w :: ofWords words := rfl

theorem length_ofWords (words : List UInt16) : (ofWords words).length = 2 * words.length := by
  induction words with
  | nil => rfl
  | cons w words ih =>
    rw [ofWords_cons, List.length_cons, List.length_cons, List.length_cons, ih]
    omega

/-- The bytes of the word of number `k` are those of numbers `2 k` and `2 k + 1`. -/
theorem getElem?_ofWords (words : List UInt16) (k : ℕ) :
    (ofWords words)[2 * k]? = words[k]?.map highByte ∧
      (ofWords words)[2 * k + 1]? = words[k]?.map lowByte := by
  induction words generalizing k with
  | nil => exact ⟨rfl, rfl⟩
  | cons w words ih =>
    cases k with
    | zero => exact ⟨rfl, rfl⟩
    | succ k => exact ih k

/-- A limit for the size of a program: a number, or none. -/
def givenLimit (max : Option ℤ) : Value := max.elim .null .int

end Rom

namespace Machine

variable {m m' : Machine} {rom : Rom}

/-! ## Loading -/

/-- A program is refused iff it is larger than its limit and the room in memory allow. -/
theorem loadRom_limit (m : Machine) (rom : Rom) (max : Option ℤ) :
    m.loadRom rom (Rom.givenLimit max) =
      if min (max.getD 3584) 3584 < rom.length then
        .error (.romTooLarge rom.length (.int (min (max.getD 3584) 3584)))
      else .ok (m.withRom rom) := by
  have hlimit : Rom.limit (Rom.givenLimit max) = .ok (.int (min (max.getD 3584) 3584)) := by
    cases max with
    | none => rfl
    | some n => exact Rom.limit_int n
  unfold loadRom
  rw [hlimit]
  show (if _ then _ else _) = _
  simp only [Rom.exceeds_int]

/-- A machine that differs from `m` in the bytes of a program alone. -/
structure HoldsRom (m : Machine) (rom : Rom) (m' : Machine) : Prop where
  program : ∀ i < rom.length, m'.memory[0x200 + i]? = rom[i]?
  kept : ∀ a : Address, a.val ∉ Set.Ico 0x200 (0x200 + rom.length) →
    m'.memory.get a = m.memory.get a
  rest : m' = { m with memory := m'.memory }

theorem holdsRom_withRom (m : Machine) (hrom : rom.length ≤ 3584) :
    m.HoldsRom rom (m.withRom rom) where
  program i hi := by
    have ha : 0x200 + i < 4096 := by omega
    have hbyte : (m.withRom rom).memory[0x200 + i] = rom[i] := by
      show (m.memory.writeBytes 0x200 rom)[0x200 + i] = rom[i]
      rw [Memory.getElem_writeBytes _ _ _ ha, if_pos (Nat.le_add_right _ _), Nat.add_sub_cancel_left,
        List.getElem?_eq_getElem hi, Option.getD_some]
    rw [Vector.getElem?_eq_getElem ha, List.getElem?_eq_getElem hi, hbyte]
  kept a ha := Memory.getElem_writeBytes_of_notMem _ a.isLt ha
  rest := rfl

/-- What was loaded before is overwritten, if it was no longer. -/
theorem withRom_withRom (m : Machine) {first second : Rom} (h : first.length ≤ second.length) :
    (m.withRom first).withRom second = m.withRom second := by
  have hmemory : (m.memory.writeBytes 0x200 first).writeBytes 0x200 second =
      m.memory.writeBytes 0x200 second := by
    refine Vector.ext fun a ha => ?_
    by_cases hin : a ∈ Set.Ico 0x200 (0x200 + first.length)
    · obtain ⟨hlo, hhi⟩ := hin
      have hlt : a - 0x200 < second.length := by omega
      rw [Memory.getElem_writeBytes _ _ _ ha, Memory.getElem_writeBytes _ _ second ha, if_pos hlo,
        if_pos hlo, List.getElem?_eq_getElem hlt, Option.getD_some, Option.getD_some]
    · rw [Memory.getElem_writeBytes _ _ _ ha, Memory.getElem_writeBytes _ _ second ha,
        Memory.getElem_writeBytes_of_notMem _ ha hin]
  exact congrArg (fun memory => { m with memory }) hmemory

/-! ## Fetching -/

/-- **A word of a program is fetched as it was written**, by any machine with that program in
    memory. -/
theorem HoldsRom.fetch {words : List UInt16} (h : m.HoldsRom (Rom.ofWords words) m')
    (hwords : words.length ≤ 1792) {k : ℕ} (hk : k < words.length) {s : Machine}
    (hmemory : s.memory = m'.memory) (hpc : s.pc.toNat = 0x200 + 2 * k) :
    s.fetchOutOfBounds = false ∧ s.fetch = (words[k], { s with pc := s.pc + 2 }) ∧
      (s.pc + 2).toNat = s.pc.toNat + 2 := by
  have hlt : s.pc.toNat + 1 < 4096 := by omega
  have hnext : (s.pc + 1).toNat = s.pc.toNat + 1 := by
    rw [UInt16.toNat_add, show (1 : UInt16).toNat = 1 from rfl]
    omega
  have hlen := Rom.length_ofWords words
  obtain ⟨hhigh, hlow⟩ := Rom.getElem?_ofWords words k
  have hread : ∀ (a : ℕ) (b : UInt8), m'.memory[a]? = some b → s.memory.read a = b := by
    intro a b hab
    obtain ⟨ha, hb⟩ := Vector.getElem?_eq_some_iff.1 hab
    rw [Memory.read_of_lt _ ha, ← hb]
    exact congrArg (·[a]) hmemory
  have hword : s.word = words[k] := by
    rw [word, Memory.wordAt, hnext, hpc, ← wordOfBytes_highByte_lowByte words[k]]
    congr 1
    · refine hread _ _ ?_
      rw [h.program _ (by omega), hhigh, List.getElem?_eq_getElem hk, Option.map_some]
    · refine hread _ _ ?_
      rw [Nat.add_assoc, h.program _ (by omega), hlow, List.getElem?_eq_getElem hk, Option.map_some]
  refine ⟨fetchOutOfBounds_eq_false_iff.2 hlt, ?_, toNat_add_two (by omega)⟩
  rw [Machine.fetch, hword]
  rfl

/-- **What is loaded is what is fetched.**  Under any limit, or none, a program is refused iff it
    is larger than the smaller of the limit and the 3584 bytes from `0x200` to the end of memory.
    Otherwise memory holds it from `0x200` on and nothing else is changed.  If it is made of
    words, each of them is then fetched as it is, from where it stands, and the program counter
    moves past it.  A program loaded over one that is not longer leaves the machine as if it
    had been the only one.  All programs of up to 1792 words fit. -/
theorem load_then_fetch (m : Machine) (max : Option ℤ) :
    (∀ rom : Rom, min (max.getD 3584) 3584 < rom.length →
      m.loadRom rom (Rom.givenLimit max) =
        .error (.romTooLarge rom.length (.int (min (max.getD 3584) 3584)))) ∧
    (∀ rom : Rom, rom.length ≤ min (max.getD 3584) 3584 →
      ∃ m', m.loadRom rom (Rom.givenLimit max) = .ok m' ∧ m.HoldsRom rom m' ∧
        (∀ words, rom = Rom.ofWords words → ∀ (k : ℕ) (hk : k < words.length) (s : Machine),
          s.memory = m'.memory → s.pc.toNat = 0x200 + 2 * k →
            s.fetchOutOfBounds = false ∧ s.fetch = (words[k], { s with pc := s.pc + 2 }) ∧
              (s.pc + 2).toNat = s.pc.toNat + 2) ∧
        ∀ (second : Rom) (max' : Option ℤ), rom.length ≤ second.length →
          m'.loadRom second (Rom.givenLimit max') = m.loadRom second (Rom.givenLimit max')) ∧
    ∀ words, words.length ≤ 1792 →
      ∃ m', m.loadRom (Rom.ofWords words) (Rom.givenLimit none) = .ok m' := by
  have hload := m.loadRom_limit
  refine ⟨?_, ?_, ?_⟩
  · intro rom hlarge
    rw [hload, if_pos hlarge]
  · intro rom hfits
    refine ⟨m.withRom rom, ?_, m.holdsRom_withRom (by omega), ?_, ?_⟩
    · rw [hload, if_neg (not_lt.2 hfits)]
    · rintro words rfl k hk s hmemory hpc
      have hlen := Rom.length_ofWords words
      exact (m.holdsRom_withRom (by omega)).fetch (by omega) hk hmemory hpc
    · intro second max' hlonger
      rw [hload, loadRom_limit, m.withRom_withRom hlonger]
  · intro words hwords
    have hlen := Rom.length_ofWords words
    refine ⟨m.withRom (Rom.ofWords words), ?_⟩
    rw [hload, if_neg (by rw [hlen, Option.getD_none, min_self]; omega)]

/-- A program of two words under a limit of four bytes, its second word, another program over it,
    and one more byte under the same limit. -/
theorem load_then_fetch_second_word :
    ∃ m m' : Machine, m.loadRom [0x12, 0x34, 0xAB, 0xCD] (.int 4) = .ok m' ∧
      Machine.fetch { m' with pc := 0x202 } = (0xABCD, { m' with pc := 0x204 }) ∧
      m'.loadRom [0, 0xE0, 0, 0xEE] .null = m.loadRom [0, 0xE0, 0, 0xEE] .null ∧
      m.loadRom [0x12, 0x34, 0xAB, 0xCD, 0xEF] (.int 4) = .error (.romTooLarge 5 (.int 4)) := by
  obtain ⟨hrefused, haccepted, -⟩ := load_then_fetch (powerOn ⟨0, 0⟩) (some 4)
  obtain ⟨m', hload, -, hfetch, hover⟩ := haccepted [0x12, 0x34, 0xAB, 0xCD] (by decide)
  refine ⟨_, m', hload, ?_, hover [0, 0xE0, 0, 0xEE] none (by decide), hrefused _ (by decide)⟩
  exact (hfetch [0x1234, 0xABCD] (by decide) 1 (by decide) { m' with pc := 0x202 } rfl rfl).2.1

end Machine

end Chip8
