import SqlBinding.Sql.DataType

namespace SqlBinding.Sql

inductive TimeField where
  /-- One that has a name of its own. -/
  | known (keyword : String)
  | other (ident : Ident)
deriving DecidableEq

namespace TimeField
open Reader

/-- The fields that an interval may be measured in. -/
def units : List String :=
  ["YEAR", "YEARS", "MONTH", "MONTHS", "WEEK", "WEEKS", "DAY", "DAYS", "HOUR", "HOURS",
    "MINUTE", "MINUTES", "SECOND", "SECONDS", "CENTURY", "DECADE", "DOW", "DOY", "EPOCH", "ISODOW",
    "ISOYEAR", "JULIAN", "MICROSECOND", "MICROSECONDS", "MILLENIUM", "MILLENNIUM", "MILLISECOND",
    "MILLISECONDS", "NANOSECOND", "NANOSECONDS", "QUARTER", "TIMEZONE", "TIMEZONE_HOUR",
    "TIMEZONE_MINUTE"]

def keywords : List String :=
  units ++ ["DATE", "DATETIME", "DAYOFWEEK", "DAYOFYEAR", "ISOWEEK", "TIME", "TIMEZONE_ABBR",
    "TIMEZONE_REGION"]

/-- A field; any other word or string is taken as it is. -/
def read : Reader TimeField := do
  let found ← next
  match found.token with
  | .word ident keyword => return if keywords.contains keyword then .known keyword else .other ident
  | .string text => return .other ⟨text, some .single⟩
  | _ => expected "date/time field" found

def part : TimeField → Part
  | known keyword => .text keyword
  | other ident => .name [ident]

end TimeField

namespace Reader

/-- A size behind a field of an interval, if one follows. -/
def fieldPrecision : Reader String := do
  if ← nextIsSymbol "(" then return " (" ++ (← bracketed size) ++ ")" else return ""

/-- The sizes behind the seconds of an interval, if they follow. -/
def secondPrecision : Reader String := do
  unless ← nextIsSymbol "(" do return ""
  let sizes ← bracketed do
    let leading ← size
    if ← acceptSymbol "," then return leading ++ ", " ++ (← size) else return leading
  return " (" ++ sizes ++ ")"

/-- An interval behind its keyword, from a reader for its length. -/
def interval (length : Reader Expr) : Reader Expr := do
  let value ← length
  let leading ← if TimeField.units.contains (← peek).token.keyword then some <$> TimeField.read
    else pure none
  let written (closing : List Part) : Expr :=
    .phrase (.text "INTERVAL " :: .expr value ::
      Part.clause " " (leading.map fun field => [field.part]) ++ closing)
  if leading = some (.known "SECOND") then return written [.text (← secondPrecision)]
  let precision ← fieldPrecision
  unless ← acceptKeyword "TO" do return written [.text precision]
  let last ← TimeField.read
  let fraction ← if last = .known "SECOND" then fieldPrecision else pure ""
  return written [.text (precision ++ " TO "), last.part, .text fraction]

/-- The order in which texts are compared, behind an operand, if it is given. -/
def collated (operand : Expr) : Reader Expr := do
  unless ← acceptKeyword "COLLATE" do return operand
  return .phrase [.expr operand, .text " COLLATE ", .name (← name)]

end Reader
end SqlBinding.Sql
