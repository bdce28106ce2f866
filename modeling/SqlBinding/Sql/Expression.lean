import SqlBinding.Sql.Operand

namespace SqlBinding.Sql

namespace Grammar
open Reader

variable (inner : Grammar)

def quantifiedOperand (strength : Nat) : Reader Expr := do
  unless ← nextIsSymbol "(" do return ← expectedNext "("
  if ["SELECT", "WITH"].contains (← peekSecond).token.keyword then inner.expr strength
  else bracketed (inner.expr strength)

/-- What follows a binary operator: its right operand, perhaps quantified. -/
def binaryTail (left : Expr) (symbol : String) (strength : Nat) : Reader Expr := do
  match ← acceptOneOf ["ANY", "ALL", "SOME"] with
  | none =>
    let right ← inner.expr strength
    match symbol with
    | "AND" => return .logical .and left right
    | "OR" => return .logical .or left right
    | _ => return .binary (.ofSymbol symbol) left right
  | some keyword =>
    let right ← inner.quantifiedOperand strength
    let quantifier : Quantifier := match keyword with
      | "ANY" => .any
      | "SOME" => .some
      | _ => .all
    return .binary (.quantified symbol quantifier) left right

def testTail (left : Expr) : Reader Expr := do
  if ← acceptKeyword "NULL" then return .isNull false left
  if ← acceptKeywords ["NOT", "NULL"] then return .isNull true left
  for test in ["TRUE", "FALSE", "UNKNOWN"] do
    if ← acceptKeyword test then return .isTest test left
    if ← acceptKeywords ["NOT", test] then return .isTest ("NOT " ++ test) left
  if ← acceptKeywords ["DISTINCT", "FROM"] then return .distinctFrom false left (← inner.whole)
  if ← acceptKeywords ["NOT", "DISTINCT", "FROM"] then
    return .distinctFrom true left (← inner.whole)
  let negated ← acceptKeyword "NOT"
  let form ← acceptOneOf ["NFC", "NFD", "NFKC", "NFKD"]
  if ← acceptKeyword "NORMALIZED" then
    return .isTest (negationText negated ++ (form.map (· ++ " ")).getD "" ++ "NORMALIZED") left
  expectedNext "[NOT] NULL | TRUE | FALSE | DISTINCT | [form] NORMALIZED FROM after IS"

def membershipTail (left : Expr) (negated : Bool) : Reader Expr := do
  if ← acceptKeyword "UNNEST" then
    let array ← bracketed inner.whole
    return .phrase [.expr left, .text (" " ++ negationText negated ++ "IN UNNEST("), .expr array,
      .text ")"]
  bracketed do
    match ← attempt inner.query with
    | some query => return .inSubquery negated left query
    | none => .inList negated left <$> list inner.whole

def likeTail (left : Expr) (negated : Bool) (keyword : String) : Reader Expr := do
  let pattern ← inner.expr Strength.pattern
  let escape ← behindKeyword "ESCAPE" quotedText
  return .like negated keyword left pattern ((escape.map (" ESCAPE '" ++ · ++ "'")).getD "")

/-- What follows LIKE or ILIKE, where one of several patterns may be asked for. -/
def anyLikeTail (left : Expr) (negated : Bool) (keyword : String) : Reader Expr := do
  inner.likeTail left negated (if ← acceptKeyword "ANY" then keyword ++ " ANY" else keyword)

/-- A membership, a range or a pattern, perhaps negated. -/
def patternTail (left : Expr) : Reader Expr := do
  let negated ← acceptKeyword "NOT"
  let expression ← acceptKeyword "REGEXP"
  let relative ← acceptKeyword "RLIKE"
  if expression || relative then
    return .like negated (if expression then "REGEXP" else "RLIKE") left
      (← inner.expr Strength.pattern)
  else if ← acceptKeyword "IN" then inner.membershipTail left negated
  else if ← acceptKeyword "BETWEEN" then
    let low ← inner.expr Strength.pattern
    expectKeyword "AND"
    return .between negated left low (← inner.expr Strength.pattern)
  else if ← acceptKeyword "LIKE" then inner.anyLikeTail left negated "LIKE"
  else if ← acceptKeyword "ILIKE" then inner.anyLikeTail left negated "ILIKE"
  else if ← acceptKeywords ["SIMILAR", "TO"] then inner.likeTail left negated "SIMILAR TO"
  else expectedNext "IN or BETWEEN after NOT"

def operatorName : Reader String := do
  expectSymbol "("
  let parts ← separatedBy "." (return (← next).token.render)
  expectSymbol ")"
  return "OPERATOR(" ++ ".".intercalate parts ++ ")"

/-- An operator and its right operand behind the left one. -/
def tail (left : Expr) (strength : Nat) : Reader Expr := do
  let found ← peek
  match found.token with
  | .symbol "::" => do
    discard next
    return .cast left (← inner.dataType).parts
  | .symbol "!" => do
    discard next
    return .phrase [.expr left, .text "!"]
  | .symbol "[" => failAt "No infix parser for token LBracket" found.location
  | .symbol text => do
    discard next
    inner.binaryTail left (if text == "==" then "=" else text) strength
  | .word ident keyword =>
    match keyword with
    | "AND" | "OR" | "XOR" | "OVERLAPS" => do
      discard next
      inner.binaryTail left keyword strength
    | "OPERATOR" => do
      discard next
      inner.binaryTail left (← operatorName) strength
    | "IS" => do
      discard next
      inner.testTail left
    | "AT" => do
      expectKeywords ["AT", "TIME", "ZONE"]
      return .phrase [.expr left, .text " AT TIME ZONE ", .expr (← inner.expr strength)]
    | "NOT" | "IN" | "BETWEEN" | "LIKE" | "ILIKE" | "SIMILAR" | "REGEXP" | "RLIKE" =>
      inner.patternTail left
    | _ =>
      failAt ("No infix parser for token Word(Word \x7b value: \"" ++ ident.value ++
        "\", quote_style: None, keyword: " ++ keyword ++ " \x7d)") found.location
  | _ => expected "an expression" found

/-- An expression up to the operators that do not bind more strongly than the given strength. -/
def expression (strength : Nat) : Reader Expr := do
  let first ← inner.operand
  iterate (fun left => do
    let following ← Strength.ahead
    if following ≤ strength then return none
    else return some (← inner.tail left following)) first

end Grammar
end SqlBinding.Sql
