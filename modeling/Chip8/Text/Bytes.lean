/-
  Text — reading integers and bytes.

  An integer is read in base ten or sixteen.  Bytes are written with two digits in base
  sixteen; blanks may stand between them, and the first character that does not belong
  there is told by its place.
-/
import Chip8.Error

namespace Chip8.Text

/-- The integer written by a text. -/
def int (s : String) : Except Error Int :=
  match int? s with
  | some n => .ok n
  | none =>
    let digits := countDigits s
    .error (.text (if maxDigits < digits then .tooManyDigits digits else .notInteger s))

/-- The value of a digit in base sixteen. -/
def hexValue? (c : Char) : Option Nat :=
  let n := c.toNat
  if 48 ≤ n ∧ n ≤ 57 then some (n - 48)
  else if 97 ≤ n ∧ n ≤ 102 then some (n - 87)
  else if 65 ≤ n ∧ n ≤ 70 then some (n - 55)
  else none

/-- Whether a character may stand between bytes. -/
def isGap (c : Char) : Bool := c = ' ' || (9 ≤ c.toNat && c.toNat ≤ 13)

/-- The bytes written from some place on, `high` being the first digit of a byte that has
    begun; or the place that does not belong there. -/
def bytesFrom (place : Nat) (high : Option Nat) : List Char → Except Nat (List UInt8)
  | [] => if high.isSome then .error place else .ok []
  | c :: cs =>
    if isGap c && high.isNone then bytesFrom (place + 1) none cs
    else
      match hexValue? c, high with
      | none, _ => .error place
      | some digit, none => bytesFrom (place + 1) (some digit) cs
      | some digit, some high => do
        return .ofNat (16 * high + digit) :: (← bytesFrom (place + 1) none cs)

/-- The bytes that a text writes.  A character beyond ASCII is found before any other. -/
def bytes (s : String) : Except Error (List UInt8) :=
  match s.toList.findIdx? fun c => 128 ≤ c.toNat with
  | some place => .error (.text (.notBytes place))
  | none => (bytesFrom 0 none s.toList).mapError fun place => .text (.notBytes place)

/-- The number that a text writes in base sixteen. -/
def hexNat (s : String) : Except Error Nat :=
  match s.toList.mapM hexValue? with
  | some (d :: ds) => .ok ((d :: ds).foldl (fun n d => 16 * n + d) 0)
  | _ => .error (.text (.notHex s))

/-- The double whose bits a text writes, the high ones first. -/
def double (s : String) : Except Error Float := do
  let bs ← bytes s
  if bs.length = 8 then
    return .ofBits (.ofNat (bs.foldl (fun n b => 256 * n + b.toNat) 0))
  else throw (.text .notDouble)

end Chip8.Text
