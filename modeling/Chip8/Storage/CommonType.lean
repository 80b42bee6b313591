/-
  Storage — the common type of values.

  Values of any kind go into one array if there is a type that holds them all.  A text
  asks for the type it names, and is then refused as a number unless the type is that
  of flags; a text or a record that names no type cannot be an element at all.
-/
import Chip8.Grid
import Chip8.Storage.ElementName

namespace Chip8

/-- What a value asks of the type of an array. -/
inductive Asked where
  | nothing
  | type (t : Numeric)
  /-- it cannot be an element -/
  | refused (e : ArrayError)

/-- What a value asks of the type of an array.  The fields of a record would have to be
    pairs that tell types. -/
def Value.asks : Value → Except Error Asked
  | flag _ => .ok (.type .flag)
  | number (.int _) => .ok .nothing
  | number (.real _) => .ok (.type .real)
  | null => .error (.array .missingValue)
  | text s => do
    match ← Numeric.named s with
    | some t => .ok (.type t)
    | none => .ok (.refused (.elementValue s ("<U" ++ toString (max 1 s.length))))
  | record ((_, text _) :: _) | record ((_, list _) :: _) | record ((_, tuple _) :: _)
  | record ((_, record _) :: _) => .error (.text .fieldEntry)
  | v => .ok (.refused (.elementValue v.literal "object"))

namespace Asked

/-- The type that is asked for. -/
def type? : Asked → Option Numeric
  | type t => some t
  | _ => none

/-- Why there is none. -/
def refusal? : Asked → Option ArrayError
  | refused e => some e
  | _ => none

end Asked

namespace Numeric

/-- The type that holds the integers of a signed and an unsigned type: none does if the
    unsigned one has 64 bits, so that they become reals. -/
def signedWith (signed unsigned : Nat) : Numeric :=
  if unsigned < 64 then int (max signed (2 * unsigned)) else real

/-- The type that holds the numbers of two types. -/
def join : Numeric → Numeric → Numeric
  | flag, t | t, flag => t
  | complex, _ | _, complex => complex
  | real, _ | _, real => real
  | integer a, integer b =>
    if a.signed = b.signed then integer ⟨max a.bits b.bits, a.signed⟩
    else if a.signed then signedWith a.bits b.bits
    else signedWith b.bits a.bits

/-- The type with half the bits, if it has 64. -/
def narrow : Numeric → Numeric
  | integer t => integer { t with bits := min t.bits 32 }
  | t => t

/-- Whether a value is an integer and no flag. -/
def isInteger : Value → Bool
  | .number (.int _) => true
  | _ => false

/-- The type in which all of some values are kept.  Where nothing else is asked for,
    integers have 32 bits. -/
def common (values : List Value) : Except Error Numeric := do
  if values.any fun v => v.kind = .null then throw (.array .missingValue)
  let asked ← values.mapM Value.asks
  match asked.findSome? Asked.refusal? with
  | some e => throw (.array e)
  | none =>
    let type := ((asked.filterMap Asked.type?).foldl join flag).narrow
    return if type = flag && values.any isInteger then int 32 else type

/-- The least magnitude that is not zero in single precision, in units: numbers below
    `2 ^ -126` count as zero, but from half a step below it on they are rounded up to it. -/
def leastNormal : Nat := .pow 2 948 - .pow 2 924

/-- Whether a number is not zero in single precision. -/
def isNonzero : Number → Bool
  | .int n => n != 0
  | .real x =>
    match Binary64.ofFloat x with
    | .finite _ units => leastNormal ≤ units
    | _ => true

/-- Whether a value kept in single precision is not zero, if `refusal` says why a text is
    none. -/
def isSetReal (refusal : String → TextError) : Value → Except Error Bool
  | .number n => do
    -- an integer becomes a double on the way
    let _ ← n.toFloat
    return isNonzero n
  | .text s => .error (.text (refusal s))
  | v => .ok v.truth

/-- Whether a value kept in a type is not zero.  Reals and complex numbers are kept in single
    precision. -/
def isSet : Numeric → Value → Except Error Bool
  | flag, v => .ok v.truth
  | integer t, v => do return (← t.pack v) != 0
  | real, v => isSetReal .notReal v
  | complex, v => isSetReal (fun _ => .notComplex) v

theorem join_flag (t : Numeric) : join t flag = t := by cases t <;> rfl

theorem flag_join (t : Numeric) : join flag t = t := rfl

end Numeric

end Chip8
