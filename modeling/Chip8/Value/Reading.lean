/-
  Values — reading them, and computing with them.

  A value of any kind is wanted as an integer, as a number or for its items, or an
  error says that it is of the wrong kind.  Two integers give an exact integer, where
  the operation has one; otherwise both become doubles first, and an integer too
  large for that is an error.
-/
import Chip8.Error

namespace Chip8

/-! ## Arithmetic on numbers of either kind -/

namespace Number

/-- The number as a double. -/
def toFloat (a : Number) : Except Error Float :=
  match a.toFloat? with
  | some x => .ok x
  | none => .error .integerTooLarge

/-- The product. -/
def mul : Number → Number → Except Error Number
  | int a, int b => .ok (int (a * b))
  | a, b => do
    let x ← a.toFloat
    let y ← b.toFloat
    .ok (real (x * y))

/-- The difference. -/
def sub : Number → Number → Except Error Number
  | int a, int b => .ok (int (a - b))
  | a, b => do
    let x ← a.toFloat
    let y ← b.toFloat
    .ok (real (x - y))

/-- The quotient, as the double nearest to it if both are integers. -/
def div : Number → Number → Except Error Float
  | int a, int b =>
    if b = 0 then .error .divisionByZero
    else
      match Binary64.ofRatio? ((a < 0) != (b < 0)) a.natAbs b.natAbs with
      | some x => .ok x
      | none => .error .quotientTooLarge
  | a, b => do
    let x ← a.toFloat
    let y ← b.toFloat
    if y == 0 then .error .realDivisionByZero else .ok (x / y)

/-- The integer part of a double, toward zero. -/
def truncate (x : Float) : Except Error Int :=
  match Binary64.ofFloat x with
  | .nan => .error .nanToInteger
  | .infinite _ => .error .infinityToInteger
  | .finite negative units => .ok (Binary64.truncate negative units)

/-- The text of a number rounded to a number of decimal places. -/
def fixed (places : Nat) (a : Number) : Except Error String :=
  a.toFloat.map (Decimal.fixed places)

end Number

/-! ## How often one number goes into another

For integers this is their quotient without its fraction.  For doubles it is computed
from the exact remainder, and the computed quotient is moved to the nearest whole
number if rounding has put it beside one. -/

namespace Number

/-- The whole quotient of two positive doubles. -/
def realRatio (x y : Float) : Float :=
  match Binary64.ofFloat x, Binary64.ofFloat y with
  | .finite _ a, .finite _ b =>
    let quotient := (x - Binary64.toFloat false (a % b)) / y
    let whole := quotient.floor
    if 0.5 < quotient - whole then whole + 1 else whole
  | .finite .., .infinite _ => 0
  | _, _ => 0 / 0

/-- How often a positive number goes into another; not a number if one of them is too large
    for that. -/
def ratio : Number → Number → Number
  | int a, int b => int (a / b)
  | a, b =>
    match a.toFloat?, b.toFloat? with
    | some x, some y => real (realRatio x y)
    | _, _ => real (0 / 0)

/-- The number of whole steps that do not reach a real number, counted in single
    precision and in 32 bits. -/
def stepsBelow (x : Float) : Nat :=
  let most := 0x7FFFFFFF
  match Binary64.ofFloat x.toFloat32.toFloat with
  | .finite false units => min most ((units + Binary64.one - 1) / Binary64.one)
  | .infinite false => most
  | _ => 0

end Number

/-! ## Values as what is wanted -/

namespace Value

/-- The integer that a value is, or the error `e`. -/
def integer (v : Value) (e : Kind → KindError) : Except Error Int :=
  match v.integer? with
  | some n => .ok n
  | none => .error (.kind (e v.kind))

/-- The number that a value is, if it is compared with an integer on its right. -/
def compared (v : Value) (relation : String) : Except Error Number :=
  match v.number? with
  | some n => .ok n
  | none => .error (.noOrder relation v)

/-- The items of a value. -/
def items (v : Value) : Except Error (List Value) :=
  match v.items? with
  | some items => .ok items
  | none => .error (.kind (.items v.kind))

/-- The text that a value is, or the error `e`. -/
def textOr (v : Value) (e : Kind → KindError) : Except Error String :=
  match v with
  | text s => .ok s
  | v => .error (.kind (e v.kind))

/-- The product of an integer and a value: texts and lists are repeated. -/
def times (n : Int) (v : Value) : Except Error Value :=
  let copies {α : Type} (items : List α) : List α := (List.replicate n.toNat items).flatten
  match v, v.number? with
  | text s, _ => .ok (text (.ofList (copies s.toList)))
  | list items, _ => .ok (list (copies items))
  | tuple items, _ => .ok (tuple (copies items))
  | _, some a => do .ok (number (← (Number.int n).mul a))
  | v, none => .error (.noOperation "*" (int n) v)

theorem integer_int (n : Int) (e : Kind → KindError) : (int n).integer e = .ok n := rfl

theorem times_int (n a : Int) : times n (int a) = .ok (int (n * a)) := rfl

end Value

end Chip8
