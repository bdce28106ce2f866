import SqlBinding.Sql.Keywords
import SqlBinding.Sql.Reader
import SqlBinding.Sql.Strings
import SqlBinding.Syntax.Render
import SqlBinding.Text.Decimal

namespace SqlBinding.Sql

namespace Reader

/-- The failure of a numeral, which names the kind of number that was wanted. -/
def numberFault {α : Type} (kind : String) (fault : Text.NumberFault) (found : Located) :
    Reader α :=
  failAt ("Could not parse '" ++ found.token.render ++ "' as " ++ kind ++ ": " ++ fault.message)
    found.location

def size : Reader String := do
  let found ← next
  match found.token with
  | .number text _ =>
    match Text.sizeOfText text with
    | .ok value => return toString value
    | .error fault => numberFault "u64" fault ⟨.number text false, found.location⟩
  | _ => expected "literal int" found

/-- A text in quotes; a word that is no keyword stands for itself. -/
def quotedText : Reader String := do
  let found ← next
  match found.token with
  | .string text | .escaped text | .codePoints text => return text
  | .word ident _ =>
    if found.token.isPlainWord then return ident.value else expected "literal string" found
  | _ => expected "literal string" found

/-- The literal that a number stands for. -/
def numberLiteral (text : String) (long : Bool) (found : Located) : Reader Literal :=
  match Text.Decimal.ofText text with
  | .ok value => return .number value.render long
  | .error fault => numberFault "bigdecimal::BigDecimal" fault ⟨.number text false, found.location⟩

/-- A literal. A colon or an at sign before a name or a number makes a placeholder. -/
def literal : Reader Literal := do
  let found ← next
  match found.token with
  | .number text long => numberLiteral text long found
  | .string text => return .string text
  | .escaped text => return .other ("E'" ++ Escape.render text ++ "'")
  | .codePoints text => return .other ("U&'" ++ CodePoint.render text ++ "'")
  | .dollars .. => return .other found.token.render
  | .literal _ value => return value
  | .placeholder text => return .placeholder text
  | .word _ "TRUE" => return .boolean true
  | .word _ "FALSE" => return .boolean false
  | .word _ "NULL" => return .null
  | .word name _ =>
    if name.quote.isSome then return .other name.render else expected "a concrete value" found
  | .symbol ":" => .placeholder <$> ((":" ++ ·) <$> placeholderName)
  | .symbol "@" => .placeholder <$> (("@" ++ ·) <$> placeholderName)
  | _ => expected "a value" found
where
  /-- What stands behind the mark of a placeholder. -/
  placeholderName : Reader String := do
    let found ← next
    match found.token with
    | .word name _ => return name.value
    | .number text false => return text
    | _ => expected "placeholder" found

def numeral : Reader Literal := do
  let found ← peek
  match ← literal with
  | .number text long => return .number text long
  | .placeholder text => return .placeholder text
  | _ => expected "literal number" found

def sign : Reader String := do
  if ← acceptSymbol "+" then return "+"
  else if ← acceptSymbol "-" then return "-"
  else return ""

def signedNumeral : Reader (List Part) := do
  let sign ← sign
  return [.text sign, .expr (.literal (← numeral))]

end Reader
end SqlBinding.Sql
