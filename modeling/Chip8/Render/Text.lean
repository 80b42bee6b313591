/-
  Rendering — displays as text.

  A display is written as one line for each row, with a text for pixels that are on
  and one for those that are off.  A caller may give any values for the two.
-/
import Chip8.Error

namespace Chip8

/-- Texts joined, or the first value that is no text, with its place. -/
def joinTexts (place : Nat) : List Value → Except Error String
  | [] => .ok ""
  | .text s :: rest => do return s ++ (← joinTexts (place + 1) rest)
  | v :: _ => .error (.kind (.joined place v.kind))

namespace Display

/-- A display as lines of text, one per row. -/
def text (d : Display) (on off : String) : String :=
  "\n".intercalate ((List.finRange 32).map fun y =>
    String.join ((List.finRange 64).map fun x => if d.pixel y x then on else off))

/-- A display as lines of text, where values tell the texts for pixels. -/
def textWith (d : Display) (on off : Value) : Except Error String := do
  let lines ← (List.finRange 32).mapM fun y =>
    joinTexts 0 ((List.finRange 64).map fun x => if d.pixel y x then on else off)
  return "\n".intercalate lines

/-- A display as lines of text, with up to two values for pixels. -/
def textOf (d : Display) (marks : List Value) : Except Error String :=
  match marks with
  | [] => .ok (d.text "#" ".")
  | [on] => d.textWith on (.text ".")
  | [on, off] => d.textWith on off
  | marks => .error (.call (.surplus "display_to_text()" 1 3 (marks.length + 1)))

end Display

end Chip8
