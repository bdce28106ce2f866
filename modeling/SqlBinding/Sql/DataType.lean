import SqlBinding.Sql.Constraint

namespace SqlBinding.Sql

/-- What a type is to a literal behind it: a name that is not built in takes none. -/
inductive TypeKind where
  | interval
  | builtIn
  | named
deriving DecidableEq, Repr

structure DataType where
  parts : List Part
  kind : TypeKind

namespace DataType
open Reader

def render (type : DataType) : String := renderParts type.parts

def ofText (text : String) : DataType :=
  ⟨[.text text], if text == "INTERVAL" then .interval else .builtIn⟩

/-- Types whose name is a single keyword, with its spelling. -/
def plain : List (String × String) :=
  ["BOOLEAN", "BOOL", "REAL", "FLOAT4", "FLOAT8", "FLOAT64", "INT64", "HUGEINT", "UBIGINT",
    "UHUGEINT", "USMALLINT", "UTINYINT", "TINYBLOB", "MEDIUMBLOB", "LONGBLOB", "UUID", "DATE",
    "TIMESTAMP_NTZ", "INTERVAL", "JSON", "JSONB", "REGCLASS", "TEXT", "TINYTEXT", "MEDIUMTEXT",
    "LONGTEXT", "BYTEA",
    "TRIGGER"].map (fun name => (name, name)) ++
  [("FLOAT32", "Float32"), ("INT16", "Int16"), ("INT32", "Int32"), ("INT128", "Int128"),
    ("INT256", "Int256"), ("UINT8", "UInt8"), ("UINT16", "UInt16"), ("UINT32", "UInt32"),
    ("UINT64", "UInt64"), ("UINT128", "UInt128"), ("UINT256", "UInt256"), ("DATE32", "Date32")]

/-- Types whose name may be followed by a size. -/
def sized : List String := ["FLOAT", "CLOB", "BINARY", "BLOB", "BYTES", "VARBIT", "DATETIME",
  "STRING", "TIMESTAMPTZ", "TIMETZ"]

/-- Types of whole numbers, whose name may be followed by a size and by `UNSIGNED`. -/
def whole : List String :=
  ["TINYINT", "INT2", "SMALLINT", "MEDIUMINT", "INT", "INT4", "INT8", "INTEGER", "BIGINT"]

/-- Types whose name may be followed by a size and a scale. -/
def scaled : List String := ["NUMERIC", "DECIMAL", "DEC", "BIGNUMERIC", "BIGDECIMAL"]

/-- What a reader gives between parentheses, written with them, if they follow. -/
def bracketedText (reader : Reader String) : Reader String := do
  if ← nextIsSymbol "(" then return "(" ++ (← bracketed reader) ++ ")" else return ""

def optionalSize : Reader String := bracketedText size

def optionalScale : Reader String := bracketedText do
  let precision ← size
  if ← acceptSymbol "," then return precision ++ "," ++ (← size) else return precision

def optionalLength : Reader String := bracketedText do
  if ← acceptKeyword "MAX" then return "MAX"
  let length ← size
  return length ++ ((← acceptOneOf ["CHARACTERS", "OCTETS"]).map (" " ++ ·)).getD ""

def optionalByteLength : Reader String := bracketedText do
  if ← acceptKeyword "MAX" then return "MAX" else size

/-- Whether a time of day comes with a zone. -/
def timeZone : Reader String := do
  if ← acceptKeyword "WITH" then
    expectKeywords ["TIME", "ZONE"]
    return " WITH TIME ZONE"
  else if ← acceptKeyword "WITHOUT" then
    expectKeywords ["TIME", "ZONE"]
    return " WITHOUT TIME ZONE"
  else return ""

/-- Characters of fixed, of varying or of great length. -/
def characters (keyword : String) : Reader String := do
  if ← acceptKeyword "VARYING" then return keyword ++ " VARYING" ++ (← optionalLength)
  else if ← acceptKeywords ["LARGE", "OBJECT"] then
    return keyword ++ " LARGE OBJECT" ++ (← optionalSize)
  else return keyword ++ (← optionalLength)

/-- A value of an enumeration, perhaps with the number that stands for it. -/
def enumerated : Reader (List Part) := do
  let written := Text.quoted '\'' (← quotedText)
  unless ← acceptSymbol "=" do return [.text written]
  return .text (written ++ " = ") :: (← signedNumeral)

def enumeration : Reader (List Part) := do
  return Part.bracketed (Part.commaSeparated (← bracketed (list enumerated)))

def stringSet : Reader String := do
  expectSymbol "("
  let members ← collectUntil <| do
    let found ← next
    let text ← match found.token with
      | .string text => pure text
      | _ => expected "a string" found
    let following ← next
    match following.token with
    | .symbol "," => return (Text.quoted '\'' text, true)
    | .symbol ")" => return (Text.quoted '\'' text, false)
    | _ => expected ", or \x7d" following
  return "(" ++ ", ".intercalate members ++ ")"

/-- The modifiers of a type that is not built in: words, numbers and strings, perhaps with commas
between them. -/
def modifiers : Reader String := do
  unless ← acceptSymbol "(" do return ""
  let texts ← collect do
    let found ← next
    match found.token with
    | .word .. => return some [found.token.render]
    | .number text _ | .string text => return some [text]
    | .symbol "," => return some []
    | .symbol ")" => return none
    | _ => expected "type modifiers" found
  if texts.flatten.isEmpty then return "" else return "(" ++ ", ".intercalate texts.flatten ++ ")"

/-- The type that a keyword names, if it is built in; the keyword itself has been taken. -/
def builtIn? (keyword : String) : Option (Reader String) :=
  if let some spelling := plain.lookup keyword then some (return spelling)
  else if sized.contains keyword then some (return keyword ++ (← optionalSize))
  else if whole.contains keyword then some do
    let size ← optionalSize
    return keyword ++ size ++ if ← acceptKeyword "UNSIGNED" then " UNSIGNED" else ""
  else if scaled.contains keyword then some (return keyword ++ (← optionalScale))
  else match keyword with
    | "VARCHAR" | "NVARCHAR" => some (return keyword ++ (← optionalLength))
    | "VARBINARY" => some (return keyword ++ (← optionalByteLength))
    | "TIMESTAMP" | "TIME" => some (return keyword ++ (← optionalSize) ++ (← timeZone))
    | "DOUBLE" => some do
      if ← acceptKeyword "PRECISION" then return "DOUBLE PRECISION"
      else return "DOUBLE" ++ (← optionalScale)
    | "CHARACTER" | "CHAR" => some (characters keyword)
    | "BIT" => some do
      if ← acceptKeyword "VARYING" then return "BIT VARYING" ++ (← optionalSize)
      else return "BIT" ++ (← optionalSize)
    | "SIGNED" | "UNSIGNED" => some do
      return keyword ++ if ← acceptKeyword "INTEGER" then " INTEGER" else ""
    | "DATETIME64" => some <| bracketed do
      let precision ← size
      let zone ← if ← acceptSymbol "," then pure (", '" ++ (← quotedText) ++ "'") else pure ""
      return "DateTime64(" ++ precision ++ zone ++ ")"
    | "FIXEDSTRING" => some <| bracketed do return "FixedString(" ++ (← size) ++ ")"
    | "SET" => some (return "SET" ++ (← stringSet))
    | _ => none

/-- A type, and whether its last bracket also closes the type around it: two closing angle brackets
are one token. -/
abbrev Bracketed := DataType × Bool

/-- The closing angle bracket behind the type of an array's elements. -/
def closeAngle (closed : Bool) : Reader Bool := do
  if closed then return false
  else if ← acceptSymbol ">" then return false
  else if ← acceptSymbol ">>" then return true
  else expectedNext ">"

/-- A type that stands by itself: no closing bracket may be left over. -/
def standing (inside : Reader Bracketed) : Reader DataType := do
  let (type, closed) ← inside
  if closed then
    failAt ("unmatched > after parsing data type " ++ type.render ++ (← peek).token.render) none
  else return type

/-- The name of a type without the square brackets behind it, from a reader for the types inside and
one for what is required of a column. -/
def element (rules : Reader (List Part)) (inside : Reader Bracketed) : Reader Bracketed := do
  let found ← next
  match found.token with
  | .word ident keyword =>
    if let some reader := builtIn? keyword then return (ofText (← reader), false)
    if ["ENUM", "ENUM8", "ENUM16"].contains keyword then
      return (⟨.text keyword :: (← enumeration), .builtIn⟩, false)
    if keyword == "ARRAY" then
      expectSymbol "<"
      let (type, closed) ← inside
      return (⟨.text "ARRAY<" :: type.parts ++ [.text ">"], .builtIn⟩, ← closeAngle closed)
    if keyword == "TABLE" then
      let columns ← bracketed <| list do
        let column ← Reader.ident
        let type ← standing inside
        return .name [column] :: .text " " :: type.parts ++ (← rules)
      return (⟨.text "TABLE(" :: Part.commaSeparated columns ++ [.text ")"], .builtIn⟩, false)
    if keyword == "ANY" then
      if ← acceptKeyword "TYPE" then return (ofText "ANY TYPE", false)
    let name := ident :: (← collect do
      if ← acceptSymbol "." then some <$> Reader.ident else return none)
    return (⟨[.name name, .text (← modifiers)], .named⟩, false)
  | _ => expected "a data type name" found

/-- A type that is nested at most so many levels. Each pair of square brackets behind a type makes
it an array of what stands before. -/
def within (rules : Reader (List Part)) : Nat → Reader Bracketed
  | 0 => throw .tooDeep
  | levels + 1 => do
    let (type, closed) ← element rules (within rules levels)
    let type ← iterate (fun type => do
      if ← acceptSymbol "[" then
        let size := (← attempt size).getD ""
        expectSymbol "]"
        return some ⟨type.parts ++ [.text ("[" ++ size ++ "]")], .builtIn⟩
      else return none) type
    return (type, closed)

end DataType

namespace Grammar
open Reader

variable (inner : Grammar)

/-- A data type. It is nested no deeper than there are tokens. -/
def dataType : Reader DataType := do
  DataType.standing (DataType.within inner.columnRules ((← get).length + 1))

def columnDefinition : Reader (List Part) := do
  let column ← ident
  let type ← inner.dataType
  return .name [column] :: .text " " :: type.parts ++ (← inner.columnRules)

end Grammar
end SqlBinding.Sql
