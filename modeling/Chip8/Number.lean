/-
  Numbers — integers, doubles and their decimals.

  A number is an integer of any size, kept exactly, or a double.  Every finite double is
  a whole number of units of `2 ^ -1074`, up to sign: with the value in these units,
  rounding a quotient to a double, truncating a double, comparing numbers and writing
  them in decimal are all arithmetic on natural numbers.
-/
namespace Chip8

/-! ## Rounding a quotient to an integer -/

/-- The integer nearest to `num / den`, a half going to the even neighbour. -/
def roundHalfEven (num den : Nat) : Nat :=
  let q := num / den
  let r := num % den
  if 2 * r < den then q
  else if den < 2 * r then q + 1
  else if q % 2 = 0 then q else q + 1

/-- An integer rounds to itself. -/
theorem roundHalfEven_mul (n : Nat) {den : Nat} (h : 0 < den) :
    roundHalfEven (n * den) den = n := by
  simp [roundHalfEven, Nat.mul_div_cancel _ h, h]

/-- Rounding moves a quotient by at most one half. -/
theorem roundHalfEven_near (num : Nat) {den : Nat} (h : 0 < den) :
    2 * num ≤ (2 * roundHalfEven num den + 1) * den ∧
      2 * roundHalfEven num den * den ≤ 2 * num + den := by
  have hd := Nat.div_add_mod num den
  have hr := Nat.mod_lt num h
  have e₁ : (2 * (num / den) + 1) * den = 2 * (den * (num / den)) + den := by
    rw [Nat.add_mul, Nat.one_mul, Nat.mul_assoc, Nat.mul_comm (num / den)]
  have e₂ : (2 * (num / den + 1) + 1) * den = 2 * (den * (num / den)) + 3 * den := by
    rw [Nat.add_mul, Nat.mul_assoc, Nat.add_mul, Nat.mul_comm (num / den)]; omega
  have e₃ : 2 * (num / den) * den = 2 * (den * (num / den)) := by
    rw [Nat.mul_assoc, Nat.mul_comm (num / den)]
  have e₄ : 2 * (num / den + 1) * den = 2 * (den * (num / den)) + 2 * den := by
    rw [Nat.mul_assoc, Nat.add_mul, Nat.mul_comm (num / den)]; omega
  unfold roundHalfEven
  dsimp only
  split
  · rw [e₁, e₃]; omega
  split
  · rw [e₂, e₄]; omega
  split
  · rw [e₁, e₃]; omega
  · rw [e₂, e₄]; omega

/-! ## Ranges of fixed-width integers

An integer of any size that goes into a fixed width either fits or is refused. -/

/-- A fixed-width integer type. -/
structure IntegerType where
  bits : Nat
  signed : Bool
deriving DecidableEq

namespace IntegerType

def uint8 : IntegerType := ⟨8, false⟩
def uint16 : IntegerType := ⟨16, false⟩
def int32 : IntegerType := ⟨32, true⟩
def int64 : IntegerType := ⟨64, true⟩

/-- Whether an integer fits. -/
def holds (t : IntegerType) (n : Int) : Bool :=
  if t.signed then -Nat.pow 2 (t.bits - 1) ≤ n && n < Nat.pow 2 (t.bits - 1)
  else 0 ≤ n && n < Nat.pow 2 t.bits

/-- The integer with the same low bits that fits. -/
def wrap (t : IntegerType) (n : Int) : Int :=
  if t.signed then n.bmod (.pow 2 t.bits) else n % Nat.pow 2 t.bits

/-- The name of the type. -/
def name (t : IntegerType) : String := (if t.signed then "int" else "uint") ++ toString t.bits

theorem wrap_unsigned (bits : Nat) (n : Int) :
    (IntegerType.mk bits false).wrap n = n % Nat.pow 2 bits := rfl

theorem holds_unsigned (bits : Nat) (n : Int) :
    (IntegerType.mk bits false).holds n = true ↔ 0 ≤ n ∧ n < Nat.pow 2 bits := by
  simp [holds]

theorem holds_signed (bits : Nat) (n : Int) :
    (IntegerType.mk bits true).holds n = true ↔
      -Nat.pow 2 (bits - 1) ≤ n ∧ n < Nat.pow 2 (bits - 1) := by
  simp [holds]

end IntegerType

/-! ## The exact value of a double -/

/-- What a double stands for. -/
inductive Binary64 where
  | nan
  | infinite (negative : Bool)
  /-- a whole number of units of `2 ^ -1074`, up to sign -/
  | finite (negative : Bool) (units : Nat)
deriving DecidableEq

namespace Binary64

/-- Units in one. -/
def one : Nat := .pow 2 1074

/-- Every finite double is below this integer. -/
def limit : Nat := .pow 2 1024

/-- What the double `x` stands for. -/
def ofFloat (x : Float) : Binary64 :=
  let bits := x.toBits.toNat
  let negative := .pow 2 63 ≤ bits
  let exponent := bits / .pow 2 52 % .pow 2 11
  let fraction := bits % .pow 2 52
  if exponent = 2047 then
    if fraction = 0 then infinite negative else nan
  else if exponent = 0 then finite negative fraction
  else finite negative ((.pow 2 52 + fraction) * .pow 2 (exponent - 1))

/-- The distance from a magnitude to the next greater one. -/
def spacing (units : Nat) : Nat := .pow 2 (units.log2 - 52)

/-- The bits of a magnitude that is a double. -/
def magnitudeBits (units : Nat) : Nat :=
  let e := units.log2 - 52
  e * .pow 2 52 + units / .pow 2 e

/-- The magnitude nearest to `num / den`, of two the one with the even
    significand; none if it is too large for a double. -/
def nearest? (num den : Nat) : Option Nat :=
  let s := spacing (num * one / den)
  let units := roundHalfEven (num * one) (den * s) * s
  if units < limit * one then some units else none

/-- The double with a given sign and magnitude. -/
def toFloat (negative : Bool) (units : Nat) : Float :=
  .ofBits (.ofNat (magnitudeBits units + if negative then .pow 2 63 else 0))

/-- The double nearest to `num / den`, if it is not too large. -/
def ofRatio? (negative : Bool) (num den : Nat) : Option Float :=
  (nearest? num den).map (toFloat negative)

/-- The double nearest to an integer, if it is not too large. -/
def ofInt? (n : Int) : Option Float := ofRatio? (n < 0) n.natAbs 1

/-- The integer part of a finite value, toward zero. -/
def truncate (negative : Bool) (units : Nat) : Int :=
  let n : Int := ↑(units / one)
  if negative then -n else n

end Binary64

/-! ## Doubles in decimal

`shortest` writes a double with the fewest digits that read back as the same
double, and of those the nearest to it; `fixed` rounds the exact value to a
number of decimal places, a half going to the even neighbour. -/

namespace Decimal

/-- The digits of a natural number, in base ten. -/
def digits (n : Nat) : List Char := Nat.toDigits 10 n

/-- The decimal `c * 10 ^ exponent`. -/
structure Scaled where
  c : Nat
  exponent : Int

/-- The numerator of `v` over the grid `10 ^ t`. -/
def gridNum (v : Nat) (t : Int) : Nat := v * .pow 10 (-t).toNat

/-- The denominator that goes with `gridNum`, for `v` counted in quarters of a
    unit. -/
def gridDen (t : Int) : Nat := 4 * Binary64.one * .pow 10 t.toNat

/-- The exponent of the first decimal digit of a positive magnitude: the
    greatest `e` with `10 ^ e ≤ units`. -/
def leadingExponent (units : Nat) : Int :=
  let e := ((units.log2 : Int) - 1074) * 30103 / 100000
  if gridDen (e + 1) ≤ gridNum (4 * units) (e + 1) then e + 1 else e

/-- The reals that round to a given magnitude, in quarters of a unit. -/
structure Basin where
  low : Nat
  high : Nat
  /-- the ends belong to it -/
  closed : Bool

/-- The reals that round to `units`.  Below a power of two the doubles lie twice
    as close. -/
def Basin.of (units : Nat) : Basin :=
  let s := Binary64.spacing units
  { low := 4 * units - if units / s = .pow 2 52 ∧ 1 < s then s else 2 * s
    high := 4 * units + 2 * s
    closed := units / s % 2 = 0 }

/-- Whether the decimal `c * 10 ^ t` lies in the basin. -/
def Basin.contains (b : Basin) (t : Int) (c : Nat) : Bool :=
  let v := c * gridDen t
  let low := gridNum b.low t
  let high := gridNum b.high t
  if b.closed then low ≤ v && v ≤ high else low < v && v < high

/-- The point of the grid `10 ^ t` nearest to `units` that reads back as it, if
    one does. -/
def onGrid? (units : Nat) (t : Int) : Option Scaled :=
  let b := Basin.of units
  let below := gridNum (4 * units) t / gridDen t
  let nearest := roundHalfEven (gridNum (4 * units) t) (gridDen t)
  if b.contains t nearest then some ⟨nearest, t⟩
  else if b.contains t below then some ⟨below, t⟩
  else if b.contains t (below + 1) then some ⟨below + 1, t⟩
  else none

/-- The shortest decimal that reads back as a positive magnitude.  Seventeen
    digits always do. -/
def shortestScaled (units : Nat) : Scaled :=
  let e := leadingExponent units
  ((List.range 17).findSome? fun k : Nat => onGrid? units (e - k)).getD ⟨0, 0⟩

/-- Drop the zeros at the end. -/
def trimZeros (ds : List Char) : List Char := (ds.reverse.dropWhile (· == '0')).reverse

/-- How a decimal is laid out. -/
structure Style where
  /-- the least exponent written in positional notation -/
  least : Int
  /-- the exponent from which on positional notation ends -/
  limit : Int
  /-- an exponent has at least this many digits -/
  exponentDigits : Nat

/-- Digits `d₀d₁d₂…` with the point after `d₀`, times `10 ^ e`: in positional
    notation with at least one decimal, or with an exponent. -/
def layout (s : Style) (ds : List Char) (e : Int) : List Char :=
  if s.least ≤ e ∧ e < s.limit then
    if e < 0 then '0' :: '.' :: (List.replicate (-e - 1).toNat '0' ++ ds)
    else
      let whole := ds.take (e.toNat + 1)
      let rest := ds.drop (e.toNat + 1)
      whole ++ List.replicate (e.toNat + 1 - whole.length) '0' ++
        '.' :: (if rest.isEmpty then ['0'] else rest)
  else
    let point := if 1 < ds.length then '.' :: ds.drop 1 else []
    let sign := if e < 0 then '-' else '+'
    let es := digits e.natAbs
    ds.take 1 ++ point ++ 'e' :: sign :: (List.replicate (s.exponentDigits - es.length) '0' ++ es)

/-- A minus sign, if the number is negative. -/
def signed (negative : Bool) (text : String) : String := if negative then "-" ++ text else text

/-- The shortest text that reads back as `x`. -/
def shortest (style : Style) (x : Float) : String :=
  match Binary64.ofFloat x with
  | .nan => "nan"
  | .infinite negative => signed negative "inf"
  | .finite negative 0 => signed negative "0.0"
  | .finite negative units =>
    let s := shortestScaled units
    let ds := digits s.c
    signed negative (.ofList (layout style (trimZeros ds) (ds.length - 1 + s.exponent)))

/-- A natural number of units of `10 ^ -places`, with a decimal point. -/
def placed (n places : Nat) : String :=
  if places = 0 then toString n
  else
    let ds := digits (n % .pow 10 places)
    toString (n / .pow 10 places) ++ "." ++
      .ofList (List.replicate (places - ds.length) '0' ++ ds)

/-- The text of `x` rounded to a number of decimal places. -/
def fixed (places : Nat) (x : Float) : String :=
  match Binary64.ofFloat x with
  | .nan => "nan"
  | .infinite negative => signed negative "inf"
  | .finite negative units =>
    signed negative (placed (roundHalfEven (units * .pow 10 places) Binary64.one) places)

/-- Spaces before a text, up to a width. -/
def padLeft (width : Nat) (text : String) : String :=
  .ofList (List.replicate (width - text.length) ' ') ++ text

end Decimal

/-! ## Numbers of either kind -/

/-- An exact integer or a double. -/
inductive Number where
  | int (n : Int)
  | real (x : Float)

namespace Number

/-- Below zero; a NaN is not. -/
def isNegative : Number → Bool
  | int n => n < 0
  | real x => x < 0

/-- Zero or below; a NaN is not. -/
def isNonpositive : Number → Bool
  | int n => n ≤ 0
  | real x => x ≤ 0

/-- Zero, of either sign. -/
def isZero : Number → Bool
  | int n => n == 0
  | real x => x == 0

/-- Above zero; a NaN is not. -/
def isPositive : Number → Bool
  | int n => 0 < n
  | real x => 0 < x

/-- The number as a double, unless it is an integer too large for one. -/
def toFloat? : Number → Option Float
  | int n => Binary64.ofInt? n
  | real x => some x

/-- Doubles are positional from `10 ^ -4` up to below `10 ^ 16`, and exponents
    have at least two digits. -/
def style : Decimal.Style where
  least := -4
  limit := 16
  exponentDigits := 2

/-- The text of a number: an integer in full, a double in the fewest digits. -/
def text : Number → String
  | int n => toString n
  | real x => Decimal.shortest style x

end Number

/-! ## The order of numbers

Numbers of either kind are compared by their exact values.  A NaN is neither below
nor equal to any number. -/

namespace Binary64

/-- A finite value as a whole number of units. -/
def signedUnits (negative : Bool) (units : Nat) : Int := if negative then -↑units else ↑units

/-- Whether a double is below an integer. -/
def below (x : Binary64) (n : Int) : Bool :=
  match x with
  | nan => false
  | infinite negative => negative
  | finite negative units => signedUnits negative units < n * one

/-- Whether a double is above an integer. -/
def above (x : Binary64) (n : Int) : Bool :=
  match x with
  | nan => false
  | infinite negative => !negative
  | finite negative units => n * one < signedUnits negative units

/-- Whether a double is an integer. -/
def isInt (x : Binary64) (n : Int) : Bool :=
  match x with
  | finite negative units => signedUnits negative units = n * one
  | _ => false

end Binary64

namespace Number

/-- Whether a number is below another. -/
def lt : Number → Number → Bool
  | int a, int b => a < b
  | int a, real y => (Binary64.ofFloat y).above a
  | real x, int b => (Binary64.ofFloat x).below b
  | real x, real y => x < y

/-- Whether two numbers are equal. -/
def same : Number → Number → Bool
  | int a, int b => a == b
  | int a, real y => (Binary64.ofFloat y).isInt a
  | real x, int b => (Binary64.ofFloat x).isInt b
  | real x, real y => x == y

/-- Whether a number is below another or equal to it. -/
def le (a b : Number) : Bool := a.lt b || a.same b

theorem lt_int (a b : Int) : (int a).lt (int b) = true ↔ a < b := by simp [lt]

theorem same_int (a b : Int) : (int a).same (int b) = true ↔ a = b := by simp [same]

theorem le_int (a b : Int) : (int a).le (int b) = true ↔ a ≤ b := by
  simp [le, lt, same, Int.le_iff_lt_or_eq]

end Number

end Chip8
