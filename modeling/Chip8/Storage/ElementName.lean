/-
  Storage — the names of element types.

  A text names an element type by a letter, by a letter and a size in bytes, or by a
  word; a mark for the order of bytes may stand before it.  A text that begins with a
  digit or has a comma in it is a list of such names with repetitions, which names a
  type only if it is one name that is not repeated.  `Numeric.named` finds the type of
  a text, if it names one.
-/
import Chip8.Error

namespace Chip8

/-! ## Repetitions

Before an element type in a list of them stands how often it is repeated: an integer,
or integers between parentheses. -/

/-- How often an element type is repeated. -/
inductive Repeats where
  | times (n : Nat)
  | extents (ns : List Nat)
deriving DecidableEq

/-- A part of the text of repetitions. -/
inductive RepeatToken where
  | digits (ds : List Char)
  | comma
  | opening
  | closing

namespace RepeatToken

/-- The parts of a text, `ds` being the digits before it, last first.  What is no part is
    passed over. -/
def scan (ds : List Char) : List Char → List RepeatToken
  | [] => flush []
  | c :: cs =>
    if c.isDigit then scan (c :: ds) cs
    else
      let rest := scan [] cs
      flush (if c = ',' then comma :: rest else if c = '(' then opening :: rest
        else if c = ')' then closing :: rest else rest)
where
  /-- The digits so far, before other parts. -/
  flush (rest : List RepeatToken) : List RepeatToken :=
    if ds.isEmpty then rest else digits ds.reverse :: rest

/-- Whether digits begin with a zero that counts for nothing. -/
def leadingZero : RepeatToken → Bool
  | digits ('0' :: ds) => ds.any (· != '0')
  | _ => false

/-- The first part that cannot be where it is, whatever follows. -/
def stray? : List RepeatToken → Option LiteralFault
  | [] => none
  | closing :: _ => some .neverOpened
  | opening :: rest => rest.findSome? fault?
  | t :: rest => if t.leadingZero then some .leadingZeros else stray? rest
where
  /-- What is wrong with a part between parentheses. -/
  fault? (t : RepeatToken) : Option LiteralFault :=
    if t.leadingZero then some .leadingZeros else none

/-- What is wrong with integers separated by commas, `item` saying that an integer must
    come next: two integers beside each other, or a comma without one before it. -/
def listFault? (item : Bool) : List RepeatToken → Option LiteralFault
  | [] => none
  | digits _ :: rest => if item then listFault? false rest else some .noComma
  | comma :: rest => if item then some .misplaced else listFault? true rest
  | _ :: _ => none

end RepeatToken

namespace Repeats

open RepeatToken

/-- The integers among some parts. -/
def integers (ts : List RepeatToken) : List Nat :=
  ts.filterMap fun t => match t with
    | digits ds => (String.ofList ds).toNat?
    | _ => none

/-- What is wrong with integers behind a parenthesis that is not closed.  Two integers at
    the very end do not count. -/
def unclosed (ts : List RepeatToken) : LiteralFault :=
  match listFault? true ts.dropLast, listFault? true ts with
  | some fault, _ => fault
  | none, some .misplaced => .misplaced
  | none, _ => .neverClosed

/-- Read the parts of repetitions. -/
def ofTokens (ts : List RepeatToken) : Except LiteralFault Repeats :=
  match stray? ts, ts with
  | some fault, _ => .error fault
  | none, opening :: rest =>
    match rest.getLast? with
    | some closing =>
      match listFault? true rest.dropLast with
      | some fault => .error fault
      | none =>
        match rest with
        | [digits _, closing] => .ok (.times ((integers rest).headD 0))
        | _ => .ok (.extents (integers rest))
    | _ => .error (unclosed rest)
  | none, ts =>
    match listFault? true ts, ts with
    | some _, _ => .error .misplaced
    | none, [digits _] => .ok (.times ((integers ts).headD 0))
    | none, _ => .ok (.extents (integers ts))

/-- Read repetitions.  A text without any part ends before its first line. -/
def read (s : List Char) : Except Error Repeats :=
  let ts := scan [] s
  let line := if ts.isEmpty then 0 else 1
  if ts.isEmpty then .error (.text (.literal .misplaced line))
  else (ofTokens ts).mapError fun fault => .text (.literal fault line)

end Repeats

/-! ## Names -/

/-- What the numbers of an element type are. -/
inductive Numeric where
  | flag
  | integer (type : IntegerType)
  | real
  | complex
deriving DecidableEq

namespace Numeric

/-- An integer type of some bits. -/
def int (bits : Nat) : Numeric := integer ⟨bits, true⟩

/-- An integer type of some bits, none for the sign. -/
def uint (bits : Nat) : Numeric := integer ⟨bits, false⟩

/-- The types with a letter. -/
def letters : List (Char × Numeric) :=
  [ ('?', flag), ('b', int 8), ('B', uint 8), ('h', int 16), ('H', uint 16), ('i', int 32),
    ('I', uint 32), ('l', int 64), ('L', uint 64), ('q', int 64), ('Q', uint 64), ('p', int 64),
    ('P', uint 64), ('n', int 64), ('N', uint 64), ('e', real), ('f', real), ('d', real),
    ('F', complex), ('D', complex) ]

/-- The types with a number, which may be written as the character of that code. -/
def codes : List (Nat × Numeric) :=
  [ (0, flag), (1, int 8), (2, uint 8), (3, int 16), (4, uint 16), (5, int 32), (6, uint 32),
    (7, int 64), (8, uint 64), (9, int 64), (10, uint 64), (11, real), (12, real), (14, complex),
    (15, complex), (23, real) ]

/-- The types with a letter and a size in bytes. -/
def sized : List (Char × Int × Numeric) :=
  [ ('b', 1, flag), ('i', 1, int 8), ('i', 2, int 16), ('i', 4, int 32), ('i', 8, int 64),
    ('u', 1, uint 8), ('u', 2, uint 16), ('u', 4, uint 32), ('u', 8, uint 64), ('f', 2, real),
    ('f', 4, real), ('f', 8, real), ('c', 8, complex), ('c', 16, complex) ]

/-- The types with a name. -/
def names : List (String × Numeric) :=
  [ ("bool", flag), ("bool_", flag), ("int8", int 8), ("byte", int 8), ("uint8", uint 8),
    ("ubyte", uint 8), ("int16", int 16), ("short", int 16), ("uint16", uint 16),
    ("ushort", uint 16), ("int32", int 32), ("intc", int 32), ("uint32", uint 32),
    ("uintc", uint 32), ("int64", int 64), ("long", int 64), ("uint64", uint 64),
    ("ulong", uint 64), ("longlong", int 64), ("ulonglong", uint 64), ("intp", int 64),
    ("uintp", uint 64), ("int", int 64), ("int_", int 64), ("uint", uint 64), ("float16", real),
    ("half", real), ("float32", real), ("single", real), ("float64", real), ("double", real),
    ("float", real), ("complex64", complex), ("csingle", complex), ("complex128", complex),
    ("cdouble", complex), ("complex", complex) ]

/-- Whether the numbers of a type have one byte, so that their bytes have no order. -/
def isByte : Numeric → Bool
  | flag => true
  | integer t => t.bits = 8
  | _ => false

/-- A number of bytes, with blanks and a sign before its digits. -/
def size? (cs : List Char) : Option Int :=
  let unblanked := cs.dropWhile fun c => c = ' ' || (9 ≤ c.toNat && c.toNat ≤ 13)
  let (negative, ds) := Text.splitSign unblanked
  if ds.all Char.isDigit then
    ((String.ofList ds).toNat?).map fun n : Nat => if negative then -↑n else ↑n
  else none

/-- The type with a letter, or with a letter and a size. -/
def coded? : List Char → Option Numeric
  | [] => none
  | [c] => codes.lookup c.toNat <|> letters.lookup c
  | c :: cs => do
    let bytes ← size? cs
    let entry ← sized.find? fun entry => entry.1 = c ∧ entry.2.1 = bytes
    some entry.2.2

/-- The marks for the order of bytes. -/
def isOrder (c : Char) : Bool := c = '<' || c = '>' || c = '=' || c = '|'

/-- The type that a text names by itself.  Bytes in the other order make no type. -/
def single? (cs : List Char) : Option Numeric :=
  let ordered :=
    match cs with
    | '>' :: rest => (coded? rest).filter isByte
    | c :: rest => if isOrder c then coded? rest else coded? cs
    | [] => none
  ordered <|> names.lookup (.ofList cs)

/-! ## Lists of names -/

/-- Whether there is a comma outside brackets, of which `depth` are open. -/
def hasComma (depth : Int) : List Char → Bool
  | [] => false
  | ',' :: cs => depth = 0 || hasComma depth cs
  | '[' :: cs => hasComma (depth + 1) cs
  | ']' :: cs => hasComma (depth - 1) cs
  | _ :: cs => hasComma depth cs

/-- Whether a text begins with a digit or with empty parentheses. -/
def startsRepeated : List Char → Bool
  | '(' :: ')' :: _ => true
  | c :: _ => c.isDigit
  | [] => false

/-- Whether a text is a list of names. -/
def isListed (cs : List Char) : Bool :=
  startsRepeated cs || (cs.head?.any isOrder && startsRepeated (cs.drop 1)) || hasComma 0 cs

/-- One name in a list, in parts. -/
structure Item where
  /-- the marks for the order of bytes, before and behind the repetitions -/
  orders : List Char × List Char
  repeats : List Char
  name : List Char

namespace Item

/-- A mark for the order of bytes, and what follows it. -/
def takeOrder (cs : List Char) : List Char × List Char := cs.span isOrder |> fun (marks, _) =>
  (cs.take (min 1 marks.length), cs.drop (min 1 marks.length))

/-- A character that may be missing, and what follows it. -/
def takeChar (c : Char) (cs : List Char) : List Char × List Char :=
  if cs.head? = some c then ([c], cs.drop 1) else ([], cs)

/-- Repetitions, and what follows them. -/
def takeRepeats (cs : List Char) : List Char × List Char :=
  let (blanks, rest) := cs.span (· = ' ')
  let (opening, rest) := takeChar '(' rest
  let (body, rest) := rest.span fun c => c = ' ' || c = ',' || c.isDigit
  let (closing, rest) := takeChar ')' rest
  let (after, rest) := rest.span (· = ' ')
  (blanks ++ opening ++ body ++ closing ++ after, rest)

/-- A name with what it has in brackets, and what follows it. -/
def takeName (cs : List Char) : List Char × List Char :=
  let (name, rest) := cs.span fun c => c.isAlphanum || c = '.' || c = '?'
  match rest with
  | '[' :: inner =>
    match inner.span fun c => c.isAlphanum || c = '.' || c = ',' with
    | (inside, ']' :: after) => (name ++ '[' :: inside ++ [']'], after)
    | _ => (name, rest)
  | _ => (name, rest)

/-- The parts of a name, and what follows it. -/
def take (cs : List Char) : Item × List Char :=
  let (before, rest) := takeOrder cs
  let (repeats, rest) := takeRepeats rest
  let (behind, rest) := takeOrder rest
  let (name, rest) := takeName rest
  (⟨(before, behind), repeats, name⟩, rest)

/-- The order of bytes of a name; the usual one is not marked. -/
def order (i : Item) : Except Error (List Char) :=
  let usual (marks : List Char) : List Char := if marks = ['='] then ['<'] else marks
  let plain (marks : List Char) : List Char := if marks = ['>'] then marks else []
  match i.orders with
  | (before, []) => .ok (plain before)
  | ([], behind) => .ok (plain behind)
  | (before, behind) =>
    if usual before = usual behind then .ok (plain (usual before))
    else .error (.text (.byteOrders (.ofList (usual before)) (.ofList (usual behind))))

/-- The name with its order of bytes, and its repetitions. -/
def read (i : Item) : Except Error (List Char × Option Repeats) := do
  let order ← i.order
  let repeats ← if i.repeats.isEmpty then .ok none else (Repeats.read i.repeats).map some
  .ok (order ++ i.name, repeats)

end Item

/-- What follows a name in a list: nothing, or the rest behind a comma. -/
def behind? (cs : List Char) : Option (Option (List Char)) :=
  match cs.dropWhile Text.isBlank with
  | [] => some none
  | ',' :: rest => some (some (rest.dropWhile Text.isBlank))
  | _ => none

/-- The names in a list, of which `count` came before, and whether there was a comma;
    `fuel` bounds the length of the text. -/
def readList (all : String) : Nat → Nat → List Char →
    Except Error (List (List Char × Option Repeats) × Bool)
  | 0, _, _ | _ + 1, _, [] => .ok ([], false)
  | fuel + 1, count, cs => do
    let (item, rest) := Item.take cs
    match behind? rest with
    | none => .error (.text (.element (count + 1) all))
    | some after => do
      let first ← item.read
      match after with
      | none => .ok ([first], false)
      | some rest =>
        let (items, _) ← readList all fuel (count + 1) rest
        .ok (first :: items, true)

/-- The type that a text names, if it names one. -/
def named (s : String) : Except Error (Option Numeric) := do
  if isListed s.toList then
    match ← readList s s.length 0 s.toList with
    | ([(name, none)], false) | ([(name, some (.times 1))], false)
    | ([(name, some (.extents []))], false) => .ok (single? name)
    | _ => .ok none
  else .ok (single? s.toList)

end Numeric

end Chip8
