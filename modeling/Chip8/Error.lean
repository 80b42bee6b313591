/-
  CHIP-8 machine — errors.

  Everything that can be refused, as a cause, in families by what is refused, and the
  wording of each cause.
-/
import Chip8.Fault
import Chip8.Storage
import Chip8.Value

namespace Chip8

/-! ## Calls with the wrong arguments -/

/-- Why the arguments of a call were refused. -/
inductive CallError where
  /-- arguments with these names are not there -/
  | missing (action : String) (names : List String)
  /-- there are more arguments than there can be -/
  | surplus (action : String) (least most given : Nat)
  /-- there is no argument of this name -/
  | unknown (action name : String)
  /-- a value is wanted that gives arguments by their names -/
  | unnamed (action : String) (kind : Kind)
  /-- an argument is wanted that is not there -/
  | absent

namespace CallError

/-- Names joined for reading: the last one after `and`, with a comma before it if
    there are more than two. -/
def enumeration : List String → String
  | [] => ""
  | [a] => a
  | [a, b] => a ++ " and " ++ b
  | names => Text.commas (names.dropLast ++ ["and " ++ names.getLastD ""])

/-- How many there are of a noun. -/
def counted (n : Nat) (noun : String) : String :=
  toString n ++ " " ++ noun ++ (if n = 1 then "" else "s")

/-- The wording of an error. -/
def message : CallError → String
  | missing action names =>
    action ++ " missing " ++ counted names.length "required positional argument" ++ ": " ++
      enumeration (names.map Text.quoted)
  | surplus action least most given =>
    let wanted :=
      if least = most then counted most "positional argument"
      else "from " ++ toString least ++ " to " ++ counted most "positional argument"
    action ++ " takes " ++ wanted ++ " but " ++ toString given ++
      (if given = 1 then " was given" else " were given")
  | unknown action name => action ++ " got an unexpected keyword argument " ++ Text.quoted name
  | unnamed action k => action ++ " argument after ** must be a mapping, not " ++ k.name
  | absent => "list index out of range"

example : message (.missing "f()" ["a", "b", "c"]) =
    "f() missing 3 required positional arguments: 'a', 'b', and 'c'" := by decide +kernel
example : message (.surplus "f()" 3 4 5) =
    "f() takes from 3 to 4 positional arguments but 5 were given" := by decide +kernel

end CallError

/-! ## Files

A file cannot be opened, or an image cannot be written in the format that the
ending of the file name asks for. -/

/-- Why a file cannot be opened. -/
inductive FileError where
  | noSuchFile (name : String)
  | isDirectory (name : String)
  | notDirectory (name : String)
  | nameTooLong (name : String)
  /-- a device is not there -/
  | noDevice (name : String)
  /-- no file can be made in a folder -/
  | readOnly (name : String)

namespace FileError

/-- The number of an error, its kind, and the file. -/
def parts : FileError → Nat × String × String
  | noSuchFile name => (2, "No such file or directory", name)
  | noDevice name => (6, "No such device or address", name)
  | notDirectory name => (20, "Not a directory", name)
  | isDirectory name => (21, "Is a directory", name)
  | readOnly name => (30, "Read-only file system", name)
  | nameTooLong name => (36, "File name too long", name)

/-- The wording of an error. -/
def message (e : FileError) : String :=
  let (number, kind, name) := e.parts
  "[Errno " ++ toString number ++ "] " ++ kind ++ ": " ++ Text.quoted name

end FileError

/-- Why an image cannot be written in a format. -/
inductive FormatError where
  /-- the ending of a file name names no format -/
  | unknown (ending : String)
  /-- images of this format can only be read -/
  | readOnly (format : String)
  /-- images of this format are written by a handler that is not there -/
  | unhandled (format : String)
  /-- images of this format have no colours -/
  | colorless (format : String)
  /-- images of this format have a palette -/
  | needsPalette (format : String)

/-- The wording of an error. -/
def FormatError.message : FormatError → String
  | unknown ending => "unknown file extension: " ++ ending
  | readOnly format => Text.quoted format
  | unhandled format => format ++ " save handler not installed"
  | colorless format => "cannot write mode RGB as " ++ format
  | needsPalette format => "Unsupported " ++ format ++ " image mode"

/-! ## Values of the wrong kind -/

/-- Why a value of some kind was refused. -/
inductive KindError where
  /-- it is wanted as a length -/
  | length (kind : Kind)
  /-- it is wanted as a count of repetitions -/
  | repetition (kind : Kind)
  /-- values of two kinds are not ordered -/
  | order (relation left right : String)
  /-- values of two kinds cannot be combined -/
  | operation (operator left right : String)
  /-- its owner cannot do what is asked of it -/
  | lacks (owner ability : String)
  /-- it is wanted as a name to look up -/
  | name (kind : Kind)
  /-- it is wanted as the key of a random source -/
  | key (kind : Kind)
  /-- it is wanted in base sixteen -/
  | hex (kind : Kind)
  /-- it is wanted as an integer, or as a text that writes one -/
  | integer (kind : Kind)
  /-- it is wanted as a real number, or as a text that writes one -/
  | real (kind : Kind)
  /-- it is wanted as a complex number, or as a text that writes one -/
  | complex (kind : Kind)
  /-- it is wanted as a place in an array -/
  | index (type : String)
  /-- it is wanted as a bound of a part of an array -/
  | bound
  /-- it is wanted as the extents of an array -/
  | extents (shown : String)
  /-- it is one of several texts to be joined, at some place among them -/
  | joined (place : Nat) (kind : Kind)
  /-- its items are wanted -/
  | items (kind : Kind)
  /-- its items are wanted as arguments -/
  | arguments (kind : Kind)
  /-- it is looked into for an item -/
  | member (kind : Kind)
  /-- an item of it is wanted -/
  | item (kind : Kind)
  /-- it is asked to do something -/
  | action (kind : Kind)
  /-- it is wanted as the name of an ability -/
  | abilityName (kind : Kind)
  /-- it is wanted as bytes written in base sixteen -/
  | bytes (kind : Kind)
  /-- it is wanted as a text in another base than ten -/
  | based
  /-- it is wanted as the name of a file -/
  | path (kind : Kind)

namespace KindError

/-- The name of a kind in quotes. -/
def quoted (k : Kind) : String := "'" ++ k.name ++ "'"

/-- Why an item of a value cannot be had by its name: texts and lists have places. -/
def itemMessage : Kind → String
  | .text => "string indices must be integers, not 'str'"
  | .list => "list indices must be integers or slices, not str"
  | k => quoted k ++ " object is not subscriptable"

/-- The wording of an error.  Reals and texts can be laid out, though not in base
    sixteen; other values cannot be laid out at all. -/
def message : KindError → String
  | length k => quoted k ++ " object cannot be interpreted as an integer"
  | repetition k => "can't multiply sequence by non-int of type " ++ quoted k
  | order relation a b =>
    "'" ++ relation ++ "' not supported between instances of '" ++ a ++ "' and '" ++ b ++ "'"
  | operation operator a b =>
    "unsupported operand type(s) for " ++ operator ++ ": '" ++ a ++ "' and '" ++ b ++ "'"
  | lacks owner ability => "'" ++ owner ++ "' object has no attribute '" ++ ability ++ "'"
  | name k => "unhashable type: " ++ quoted k
  | key k => "unexpected PRNG key type <class " ++ quoted k ++ ">"
  | hex k =>
    if k = .real ∨ k = .text then "Unknown format code 'X' for object of type " ++ quoted k
    else "unsupported format string passed to " ++ k.name ++ ".__format__"
  | integer k =>
    "int() argument must be a string, a bytes-like object or a real number, not " ++ quoted k
  | real k => "float() argument must be a string or a real number, not " ++ quoted k
  | complex k => "complex() first argument must be a string or a number, not " ++ quoted k
  | index type => "Indexer must have integer or boolean type, got indexer with type " ++ type
  | bound => "slice indices must be integers or None or have an __index__ method"
  | extents s => "expected a sequence of integers or a single integer, got '" ++ s ++ "'"
  | joined place k =>
    "sequence item " ++ toString place ++ ": expected str instance, " ++ k.name ++ " found"
  | items k => quoted k ++ " object is not iterable"
  | arguments k => "Value after * must be an iterable, not " ++ k.name
  | member k => "argument of type " ++ quoted k ++ " is not iterable"
  | item k => itemMessage k
  | action k => quoted k ++ " object is not callable"
  | abilityName k => "attribute name must be string, not " ++ quoted k
  | bytes k => "fromhex() argument must be str, not " ++ k.name
  | based => "int() can't convert non-string with explicit base"
  | path k => "expected str, bytes or os.PathLike object, not " ++ k.name

end KindError

/-! ## Texts that cannot be read

A text is wanted as a number, as bytes in base sixteen, or as the name of an
element type, and is not written as one. -/

/-- What is wrong with the text of a literal. -/
inductive LiteralFault where
  | leadingZeros
  | neverClosed
  | neverOpened
  | noComma
  | misplaced

/-- The wording of what is wrong with a literal. -/
def LiteralFault.message : LiteralFault → String
  | leadingZeros =>
    "leading zeros in decimal integer literals are not permitted; " ++
      "use an 0o prefix for octal integers"
  | neverClosed => "'(' was never closed"
  | neverOpened => "unmatched ')'"
  | noComma => "invalid syntax. Perhaps you forgot a comma?"
  | misplaced => "invalid syntax"

/-- Why a text cannot be read. -/
inductive TextError where
  | notInteger (text : String)
  /-- an integer has too many digits -/
  | tooManyDigits (digits : Nat)
  | notReal (text : String)
  | notComplex
  /-- the character at a place does not belong to bytes in base sixteen -/
  | notBytes (place : Nat)
  /-- it is no number in base sixteen -/
  | notHex (text : String)
  /-- it does not have the eight bytes of a double -/
  | notDouble
  /-- a literal, found on a line, is not one -/
  | literal (fault : LiteralFault) (line : Nat)
  /-- the item of some number in a list of element types is none -/
  | element (number : Nat) (text : String)
  /-- an element type has two orders of bytes -/
  | byteOrders (first second : String)
  /-- a record tells its fields in the wrong way -/
  | fieldEntry

namespace TextError

/-- The wording of an error. -/
def message : TextError → String
  | notInteger s => "invalid literal for int() with base 10: " ++ (Text.quoted s).take 200
  | tooManyDigits n =>
    "Exceeds the limit (" ++ toString Text.maxDigits ++ " digits) for integer string conversion: " ++
      "value has " ++ toString n ++ " digits; use sys.set_int_max_str_digits() to increase the limit"
  | notReal s => "could not convert string to float: " ++ Text.quoted s
  | notComplex => "complex() arg is a malformed string"
  | notBytes place =>
    "non-hexadecimal number found in fromhex() arg at position " ++ toString place
  | notHex s => "invalid literal for int() with base 16: " ++ (Text.quoted s).take 200
  | notDouble => "unpack requires a buffer of 8 bytes"
  | literal fault line => fault.message ++ " (<unknown>, line " ++ toString line ++ ")"
  | element number s =>
    "format number " ++ toString number ++ " of \"" ++ s ++ "\" is not recognized"
  | byteOrders a b => "inconsistent byte-order specification " ++ a ++ " and " ++ b
  | fieldEntry => "entry not a 2- or 3- tuple"

end TextError

/-! ## Everything that can be refused -/

/-- The description of an outcome, with the program counter and the word it was
    found at. -/
def Fault.describe (f : Option Fault) (pc word : Int) : String :=
  match f with
  | none => "No fault"
  | some unsupportedOpcode =>
    "Unsupported opcode 0x" ++ Text.hex 4 word ++ " at 0x" ++ Text.hex 3 pc
  | some stackOverflow =>
    "Stack overflow calling 0x" ++ Text.hex 3 (word % 4096) ++ " from 0x" ++ Text.hex 3 pc
  | some stackUnderflow => "Stack underflow returning from 0x" ++ Text.hex 3 pc
  | some memoryOutOfBounds =>
    "Memory access out of bounds by 0x" ++ Text.hex 4 word ++ " at 0x" ++ Text.hex 3 pc

/-- The choices that are made by name. -/
inductive Choice where
  | faultPolicy
  | logLevel
  | colorScheme
deriving DecidableEq

namespace Choice

/-- What is chosen. -/
def noun : Choice → String
  | faultPolicy => "fault policy"
  | logLevel => "log level"
  | colorScheme => "color scheme"

/-- The names that can be chosen. -/
def names : Choice → List String
  | faultPolicy => ["halt", "skip", "reset"]
  | logLevel => ["DEBUG", "INFO", "WARNING", "ERROR", "CRITICAL"]
  | colorScheme => ["classic", "green", "amber", "blue", "retro"]

end Choice

/-- Why something was refused. -/
inductive Error where
  /-- a step faulted, with the program counter and the word as they were told -/
  | faulted (fault : Fault) (pc word : Value)
  /-- there is no outcome with this number -/
  | noSuchFault (shown : String)
  /-- the outcome that is no fault is not counted -/
  | notCounted
  | romTooLarge (size : Nat) (limit : Value)
  /-- a number is not that of a byte -/
  | notByte
  | noSuchKey (shown : String)
  /-- an integer does not fit into the type that is to hold it -/
  | outOfRange (n : Int) (type : IntegerType)
  /-- an integer that stands alone does not fit into the type that is to hold it -/
  | scalarOutOfRange (n : Int) (type : IntegerType)
  /-- an integer does not fit into 64 bits -/
  | longOverflow
  /-- a length does not fit into 64 bits -/
  | lengthOverflow
  /-- a count of repetitions does not fit into 64 bits -/
  | repetitionOverflow
  /-- there is no room for so many repetitions -/
  | noRoomToRepeat
  /-- a number of steps does not fit into 32 bits -/
  | stepsOverflow (n : Int)
  | unknownChoice (choice : Choice) (name : String)
  /-- a frequency of the host is not positive -/
  | hostFrequency
  /-- the frequency of a clock is not positive -/
  | clockFrequency (shown : String)
  | negativeElapsed (shown : String)
  | nanToInteger
  | infinityToInteger
  | integerTooLarge
  | quotientTooLarge
  | divisionByZero
  | realDivisionByZero
  /-- a field is wanted that is not there -/
  | noField (name : String)
  /-- a value is of the wrong kind -/
  | kind (e : KindError)
  /-- a text cannot be read -/
  | text (e : TextError)
  | call (e : CallError)
  | array (e : ArrayError)
  | file (e : FileError)
  /-- a file name has a character of code zero -/
  | zeroInName
  /-- an image cannot be written -/
  | format (e : FormatError)

namespace Error

/-- Refuse an integer that does not fit.  One that does not fit into 64 bits is
    refused before its type is looked at. -/
def ofRange (n : Int) (type : IntegerType) : Error :=
  if IntegerType.int64.holds n then outOfRange n type else longOverflow

/-- Refuse a value that is no text where its capitals are wanted. -/
def noCapitals (v : Value) : Error := kind (.lacks v.kindName "upper")

/-- Refuse to compare a value with an integer on its right. -/
def noOrder (relation : String) (v : Value) : Error := kind (.order relation v.kindName "int")

/-- Refuse to combine two values. -/
def noOperation (operator : String) (a b : Value) : Error :=
  kind (.operation operator a.kindName b.kindName)

/-- The wording of an error. -/
def message : Error → String
  | faulted f pc word =>
    Fault.describe (some f) (pc.integer?.getD 0) (word.integer?.getD 0)
  | noSuchFault shown => shown ++ " is not a valid Fault"
  | notCounted => "<Fault.NONE: 0>"
  | romTooLarge size limit =>
    "ROM is " ++ toString size ++ " bytes; at most " ++ limit.shown ++ " bytes fit from 0x" ++
      Text.hex 3 Memory.programStart ++ " to 0x" ++ Text.hex 3 (Memory.size - 1)
  | notByte => "bytes must be in range(0, 256)"
  | noSuchKey key => "Key must be in 0x0-0xF, got " ++ key
  | outOfRange n type => "Python integer " ++ toString n ++ " out of bounds for " ++ type.name
  | scalarOutOfRange n type =>
    "Python int " ++ toString n ++ " too large to convert to " ++ type.name
  | longOverflow => "Python int too large to convert to C long"
  | lengthOverflow => "Python int too large to convert to C ssize_t"
  | repetitionOverflow => "cannot fit 'int' into an index-sized integer"
  | noRoomToRepeat => ""
  | stepsOverflow n =>
    "An overflow was encountered while parsing an argument to a jitted computation, whose " ++
      "argument path is n. Got <class 'int'> with value " ++ toString n
  | unknownChoice choice name =>
    "Unknown " ++ choice.noun ++ " '" ++ name ++ "'. Available: " ++ Text.quotedList choice.names
  | hostFrequency => "Instruction and timer frequencies must be positive"
  | clockFrequency f => "Clock frequency must be positive, got " ++ f
  | negativeElapsed e => "Elapsed time must not be negative, got " ++ e
  | nanToInteger => "cannot convert float NaN to integer"
  | infinityToInteger => "cannot convert float infinity to integer"
  | integerTooLarge => "int too large to convert to float"
  | quotientTooLarge => "integer division result too large for a float"
  | divisionByZero => "division by zero"
  | realDivisionByZero => "float division by zero"
  | noField name => Text.quoted name
  | kind e => e.message
  | text e => e.message
  | call e => e.message
  | array e => e.message
  | file e => e.message
  | zeroInName => "embedded null byte"
  | format e => e.message

end Error

/-! ## Results and failures -/

theorem ok_bind {α β : Type} (a : α) (f : α → Except Error β) : (Except.ok a >>= f) = f a := rfl

theorem of_bind_eq_ok {α β : Type} {e : Except Error α} {f : α → Except Error β} {b : β}
    (h : e >>= f = .ok b) : ∃ a, e = .ok a ∧ f a = .ok b := by
  cases e with
  | error e => cases h
  | ok a => exact ⟨a, rfl, h⟩

theorem ok_of_toOption {α : Type} {e : Except Error α} {a : α} (h : e.toOption = some a) :
    e = .ok a := by
  cases e with
  | ok b => rw [Option.some.inj h]
  | error e => cases h

theorem toOption_bind {ε α β : Type} (e : Except ε α) (f : α → Except ε β) :
    (e >>= f).toOption = e.toOption.bind fun a => (f a).toOption := by
  cases e with
  | error e => rfl
  | ok a => rfl

theorem toOption_mapM {ε α β : Type} {f : α → Except ε β} {p : α → Bool} {g : α → β} {l : List α}
    (hf : ∀ a ∈ l, (f a).toOption = if p a then some (g a) else none) :
    (l.mapM f).toOption = if l.all p then some (l.map g) else none := by
  induction l with
  | nil => rfl
  | cons a l ih =>
    rw [List.mapM_cons, toOption_bind, hf a List.mem_cons_self, List.all_cons, List.map_cons]
    cases p a with
    | false => rfl
    | true =>
      rw [Bool.true_and, if_pos rfl, Option.bind_some, toOption_bind,
        ih fun b hb => hf b (List.mem_cons_of_mem a hb)]
      cases l.all p with
      | false => rfl
      | true => rfl

theorem toOption_mapM_eq_none {ε α β : Type} {f : α → Except ε β} {l : List α} {a : α}
    (ha : a ∈ l) (hf : (f a).toOption = none) : (l.mapM f).toOption = none := by
  induction l with
  | nil => exact absurd ha List.not_mem_nil
  | cons b l ih =>
    rw [List.mapM_cons, toOption_bind]
    rcases List.mem_cons.1 ha with rfl | ha
    · rw [hf]
      rfl
    · refine Option.bind_eq_none_iff.2 fun b _ => ?_
      rw [toOption_bind, ih ha]
      rfl

end Chip8
