/-
  Values of any kind.

  Callers hand over values whose kind is not known before they are looked at.
  `Value.shown` writes a value as part of a message, `Value.literal` so that its kind
  can be told, and `Value.same` says which values count as equal.
-/
import Chip8.Number
import Chip8.Text

namespace Chip8

/-- The kinds of values. -/
inductive Kind where
  | null
  | flag
  | integer
  | real
  | text
  | list
  | tuple
  | record
deriving DecidableEq

/-- The name of a kind. -/
def Kind.name : Kind → String
  | null => "NoneType"
  | flag => "bool"
  | integer => "int"
  | real => "float"
  | text => "str"
  | list => "list"
  | tuple => "tuple"
  | record => "dict"

/-- A value of any kind. -/
inductive Value where
  | null
  | flag (b : Bool)
  | number (n : Number)
  | text (s : String)
  | list (items : List Value)
  /-- a list that cannot be changed -/
  | tuple (items : List Value)
  | record (fields : List (String × Value))
deriving Inhabited

/-- The kind of a number. -/
def Number.kind : Number → Kind
  | int _ => .integer
  | real _ => .real

namespace Value

/-- An integer as a value. -/
def int (n : Int) : Value := number (.int n)

/-- The kind of a value. -/
def kind : Value → Kind
  | null => .null
  | flag _ => .flag
  | number n => n.kind
  | text _ => .text
  | list _ => .list
  | tuple _ => .tuple
  | record _ => .record

/-- The name of the kind of a value. -/
def kindName (v : Value) : String := v.kind.name

/-- Whether the value counts as true. -/
def truth : Value → Bool
  | null => false
  | flag b => b
  | number n => !n.isZero
  | text s => !s.isEmpty
  | list items | tuple items => !items.isEmpty
  | record fields => !fields.isEmpty

/-- The number that a value is, a flag being one or zero. -/
def number? : Value → Option Number
  | flag b => some (.int b.toInt)
  | number n => some n
  | _ => none

/-- The integer that a value is, a flag being one or zero. -/
def integer? : Value → Option Int
  | flag b => some b.toInt
  | number (.int n) => some n
  | _ => none

/-- The items that a value holds one after another: the characters of a text, the
    names of the fields of a record. -/
def items? : Value → Option (List Value)
  | text s => some (s.toList.map fun c => text c.toString)
  | list items | tuple items => some items
  | record fields => some (fields.map fun f => text f.1)
  | _ => none

mutual

/-- A value with the marks of its kind: a text stands in quotes. -/
def literal : Value → String
  | null => "None"
  | flag b => if b then "True" else "False"
  | number n => n.text
  | text s => Text.quoted s
  | list items => "[" ++ Text.commas (literals items) ++ "]"
  | tuple items =>
    "(" ++ Text.commas (literals items) ++ (if items.length = 1 then ",)" else ")")
  | record fields => "\x7b" ++ Text.commas (fieldLiterals fields) ++ "\x7d"

/-- Several values with the marks of their kinds. -/
def literals : List Value → List String
  | [] => []
  | v :: vs => v.literal :: literals vs

/-- Several fields, each a name and a value. -/
def fieldLiterals : List (String × Value) → List String
  | [] => []
  | (name, v) :: fields => (Text.quoted name ++ ": " ++ v.literal) :: fieldLiterals fields

end

/-- A value as part of a message: a text stands as it is. -/
def shown : Value → String
  | text s => s
  | v => v.literal

mutual

/-- Whether two values count as equal: flags are the numbers one and zero, and the
    fields of a record have no order. -/
def same : Value → Value → Bool
  | null, null => true
  | text a, text b => a == b
  | list a, list b | tuple a, tuple b => sameItems a b
  | record a, record b => a.length == b.length && sameFields a b
  | flag a, b => b.number?.any (Number.int a.toInt).same
  | number a, b => b.number?.any a.same
  | _, _ => false

/-- Whether two lists of values count as equal. -/
def sameItems : List Value → List Value → Bool
  | [], [] => true
  | a :: as, b :: bs => a.same b && sameItems as bs
  | _, _ => false

/-- Whether each of some fields is among others. -/
def sameFields : List (String × Value) → List (String × Value) → Bool
  | [], _ => true
  | (name, a) :: fields, others =>
    (match others.lookup name with
      | some b => a.same b
      | none => false) && sameFields fields others

end

end Value

end Chip8
