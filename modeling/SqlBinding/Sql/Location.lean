import SqlBinding.Text.Decimal

/-! Places in a text, counted in lines and in characters of a line, both from one. A line ends at
its newline, which is its last character. A message points to a place if it ends with its location;
without one the place is that behind the last character.
-/

namespace SqlBinding.Sql

structure Location where
  line : Nat
  column : Nat
deriving DecidableEq, Repr

namespace Location

def start : Location := ⟨1, 1⟩

def after (location : Location) (c : Char) : Location :=
  if c = '\n' then ⟨location.line + 1, 1⟩ else ⟨location.line, location.column + 1⟩

def advance (location : Location) (chars : List Char) : Location := chars.foldl after location

/-- How a message ends that points to a place. -/
def render (location : Location) : String :=
  " at Line: " ++ toString location.line ++ ", Column: " ++ toString location.column

end Location

/-- Splits off the digits at the end of a text, and the given text before them. What is returned is
what stands in front, and the number. -/
def takeNumber? (label chars : List Char) : Option (List Char × Nat) :=
  let backward := chars.reverse
  let digits := (backward.takeWhile Char.isDigit).reverse
  let front := (backward.dropWhile Char.isDigit).reverse
  if Text.isDigitRun digits && label.isSuffixOf front &&
      Text.natOfDigits digits ≤ Text.largestNumber then
    some (front.take (front.length - label.length), Text.natOfDigits digits)
  else none

/-- The location at the end of a message. -/
def locationOf? (message : List Char) : Option Location := do
  let (front, column) ← takeNumber? ", Column: ".toList message
  let (_, line) ← takeNumber? "at Line: ".toList front
  return ⟨line, column⟩

/-- The number of characters before a line, newlines included. -/
def charsBefore (line : Nat) (chars : List Char) : Nat :=
  match line, chars with
  | 0, _ | 1, _ => 0
  | _, [] => 1
  | line + 2, c :: rest => 1 + charsBefore (if c = '\n' then line + 1 else line + 2) rest

/-- The offset of the place a message points to. -/
def cursorPosition (sql message : String) : Nat :=
  match locationOf? message.toList with
  | some ⟨line + 1, column⟩ => charsBefore (line + 1) sql.toList + column
  | _ => sql.length + 1

end SqlBinding.Sql
