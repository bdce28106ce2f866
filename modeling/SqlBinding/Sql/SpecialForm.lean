import SqlBinding.Sql.Call

namespace SqlBinding.Sql

namespace Grammar
open Reader

variable (inner : Grammar)

/-- The form with words between its operands: the text before each and the operand. -/
def worded (opening : String) (operands : List (String × Expr)) : Expr :=
  .phrase (.text opening :: operands.flatMap (fun (word, value) => [.text word, .expr value]) ++
    [.text ")"])

def cases : Reader Expr := do
  let operand ← if ← nextIsKeyword "WHEN" then pure none else some <$> inner.whole
  expectKeyword "WHEN"
  let branch : Reader (Expr × Expr) := do
    let condition ← inner.whole
    expectKeyword "THEN"
    return (condition, ← inner.whole)
  let first ← branch
  let others ← collect (behindKeyword "WHEN" branch)
  let otherwise ← behindKeyword "ELSE" inner.whole
  expectKeyword "END"
  return .cases operand (first :: others) otherwise

/-- How the text of a cast is laid out, if it is said. -/
def castFormat : Reader String := do
  unless ← acceptKeyword "FORMAT" do return ""
  let layout := " FORMAT " ++ (← literal).render
  unless ← acceptKeywords ["AT", "TIME", "ZONE"] do return layout
  return layout ++ " AT TIME ZONE " ++ (← literal).render

def castCall (keyword : String) : Reader Expr := bracketed do
  let operand ← inner.whole
  expectKeyword "AS"
  let type ← inner.dataType
  return .phrase (.text (keyword ++ "(") :: .expr operand :: .text " AS " :: type.parts ++
    [.text ((← castFormat) ++ ")")])

/-- A conversion behind its keyword, to a set of characters or to a type. -/
def conversion : Reader Expr := bracketed do
  let operand ← inner.whole
  let converted (closing : List Part) : Expr :=
    .phrase (.text "CONVERT(" :: .expr operand :: closing ++ [.text ")"])
  if ← acceptKeyword "USING" then return converted [.text " USING ", .name (← name)]
  expectSymbol ","
  let type ← inner.dataType
  unless ← acceptKeywords ["CHARACTER", "SET"] do return converted (.text ", " :: type.parts)
  return converted (.text ", " :: type.parts ++ [.text " CHARACTER SET ", .name (← name)])

/-- A field of a point in time, behind the keyword. -/
def extraction : Reader Expr := bracketed do
  let field ← TimeField.read
  unless ← acceptKeyword "FROM" do
    discard (acceptSymbol ",")
    return ← failAt "Expected 'FROM' or ','" none
  return .phrase [.text "EXTRACT(", field.part, .text " FROM ", .expr (← inner.whole), .text ")"]

/-- A number cut to a scale, or a point in time cut to a field, behind the keyword. -/
def rounding (keyword : String) : Reader Expr := bracketed do
  let operand ← inner.whole
  let scale ← if ← acceptKeyword "TO" then pure [.text " TO ", (← TimeField.read).part]
    else if ← acceptSymbol "," then
      match ← literal with
      | .number text long => pure [.text (", " ++ (Literal.number text long).render)]
      | _ => failAt "Scale field can only be of number type" none
    else pure []
  return .phrase (.text (keyword ++ "(") :: .expr operand :: scale ++ [.text ")"])

def position (ident : Ident) : Reader Expr := do
  let found ← attempt <| bracketed do
    let part ← inner.expr Strength.pattern
    expectKeyword "IN"
    return worded "POSITION(" [("", part), (" IN ", ← inner.whole)]
  match found with
  | some found => return found
  | none => inner.call [ident]

def substring (keyword : String) : Reader Expr := bracketed do
  let operand ← inner.whole
  let comma ← acceptSymbol ","
  let start ← if comma then some <$> inner.whole else behindKeyword "FROM" inner.whole
  let length ← if ← acceptKeyword "FOR" then some <$> inner.whole
    else if ← acceptSymbol "," then some <$> inner.whole
    else pure none
  return worded (keyword ++ "(") (("", operand) ::
    (start.map fun value => (if comma then ", " else " FROM ", value)).toList ++
    (length.map fun value => (if comma then ", " else " FOR ", value)).toList)

/-- A text with a part replaced, behind the keyword. -/
def replacement : Reader Expr := bracketed do
  let operand ← inner.whole
  expectKeyword "PLACING"
  let placed ← inner.whole
  expectKeyword "FROM"
  let start ← inner.whole
  let length ← behindKeyword "FOR" inner.whole
  return worded "OVERLAY(" ([("", operand), (" PLACING ", placed), (" FROM ", start)] ++
    (length.map fun value => (" FOR ", value)).toList)

/-- A text without what surrounds it, behind the keyword. Characters may not be listed behind a
comma, which is taken before that is found out. -/
def trimming : Reader Expr := bracketed do
  let side ← acceptOneOf ["BOTH", "LEADING", "TRAILING"]
  let first ← inner.whole
  let operand ← behindKeyword "FROM" inner.whole
  if operand.isNone then discard (acceptSymbol ",")
  return worded ("TRIM(" ++ (side.map (· ++ " ")).getD "")
    (("", first) :: (operand.map fun value => (" FROM ", value)).toList)

def negation : Reader Expr := do
  if ← acceptKeyword "EXISTS" then return .existence true (← inner.bracketedQuery)
  return .negation (← inner.expr Strength.negation)

/-- The kinds of figures, which open a literal but are no types of their own. -/
def figures : List String := ["POINT", "LINE", "LSEG", "BOX", "PATH", "POLYGON", "CIRCLE"]

/-- A figure behind its kind, which is written in lower case. -/
def figure (keyword : String) : Reader Expr := do
  return .phrase [.text (keyword.toLower ++ " " ++ (← literal).render)]

/-- The form that a keyword opens in the place of an operand, if it opens one. The length of an
interval is given by a reader of its own. -/
def special? (length : Reader Expr) (ident : Ident) (keyword : String) : Reader (Option Expr) := do
  match keyword with
  | "TRUE" => return some (.literal (.boolean true))
  | "FALSE" => return some (.literal (.boolean false))
  | "NULL" => return some (.literal .null)
  | "CURRENT_CATALOG" | "CURRENT_USER" | "SESSION_USER" | "USER" =>
    return some (.phrase [.name [ident]])
  | "CURRENT_TIMESTAMP" | "CURRENT_TIME" | "CURRENT_DATE" | "LOCALTIME" | "LOCALTIMESTAMP" =>
    if ← acceptSymbol "(" then return some (.call [ident] (← inner.arguments))
    return some (.phrase [.name [ident]])
  | "CASE" => some <$> inner.cases
  | "CONVERT" => some <$> inner.conversion
  | "CAST" | "TRY_CAST" | "SAFE_CAST" => some <$> inner.castCall keyword
  | "EXISTS" => return some (.existence false (← inner.bracketedQuery))
  | "EXTRACT" => some <$> inner.extraction
  | "CEIL" | "FLOOR" => some <$> inner.rounding keyword
  | "POSITION" => if ← nextIsSymbol "(" then some <$> inner.position ident else return none
  | "SUBSTR" | "SUBSTRING" => some <$> inner.substring keyword
  | "OVERLAY" => some <$> inner.replacement
  | "TRIM" => some <$> inner.trimming
  | "INTERVAL" => some <$> interval length
  | "ARRAY" => do
    if ← acceptSymbol "[" then
      let items ← listBefore "]" inner.whole
      expectSymbol "]"
      return some (.array "ARRAY" items)
    if ← nextIsSymbol "(" then
      return some (.phrase [.name [ident], .text "(", .query (← inner.bracketedQuery), .text ")"])
    return none
  | "NOT" => some <$> inner.negation
  | _ => if figures.contains keyword then some <$> figure keyword else return none

end Grammar
end SqlBinding.Sql
