import SqlBinding.Sql.SpecialForm

namespace SqlBinding.Sql

namespace Grammar
open Reader

variable (inner : Grammar)

def typedLiteral (length : Reader Expr) : Reader Expr := do
  let type ← inner.dataType
  match type.kind with
  | .interval => interval length
  | .named => expectedNext "a literal"
  | .builtIn => return .phrase (type.parts ++ [.text (" " ++ (← literal).render)])

/-- A word as a column or as the name of a function. A word that starts with an underscore may name
the set of characters of the string that follows. -/
def named (ident : Ident) : Reader Expr := do
  if ← nextIsSymbol "(" then return ← inner.call [ident]
  if ident.value.startsWith "_" && (← nextIsText) then
    return .phrase [.name [ident], .text " ", .expr (.literal (← literal))]
  return .column [ident]
where
  nextIsText : Reader Bool := do
    let following := (← peek).token
    match following with
    | .string _ => return true
    | _ => return following.isHexadecimal

/-- An operand that starts with a word. Where the form that the word opens is incomplete, the word
is taken for a name, unless that is not allowed; no order of texts may follow such a name. -/
def wordOperand (length : Reader Expr) (ident : Ident) (keyword : String) : Reader Expr := do
  let form := intact (inner.special? length ident keyword)
  match ← tryCatch (Except.ok <$> form) fun fault => return .error fault with
  | .ok (some expr) => collated expr
  | .ok none => collated (← inner.named ident)
  | .error fault =>
    if Reserved.asColumn.contains keyword then throw fault
    tryCatch (intact (inner.named ident)) fun _ => throw fault

/-- Whether a subquery starts here, without its parentheses. -/
def nextIsSubquery : Reader Bool := return ["SELECT", "WITH"].contains (← peek).token.keyword

/-- What stands between parentheses in the place of an operand, up to the closing one. -/
def bracketedOperand : Reader Expr := do
  let inside : Expr ← if ← nextIsSubquery then Expr.subquery <$> inner.query
    else do
      match ← list inner.whole with
      | [single] => pure (Expr.nested single)
      | several => pure (Expr.tuple several)
  expectSymbol ")"
  return inside

/-- A function call between braces, behind the opening one. -/
def bracedCall (opening : Located) : Reader Expr := do
  let found ← attempt do
    expectKeyword "FN"
    inner.call (← name)
  match found with
  | some call =>
    expectSymbol "\x7d"
    return .phrase [.text "\x7bfn ", .expr call, .text "\x7d"]
  | none => expected "an expression" opening

/-- The operators that may stand before an operand, and how strongly they bind. -/
def signStrength? (text : String) : Option Nat :=
  if ["-", "+"].contains text then some Strength.product
  else if ["!!", "|/", "||/", "@", "~", "#", "@-@", "@@", "?-", "?|"].contains text then
    some Strength.sum
  else none

/-- A blank divides the operand from some of the operators before it. -/
def signText (text : String) : String :=
  if ["#", "@-@", "@@", "?-", "?|"].contains text then text ++ " " else text

def wordless : Reader Expr := do
  let start ← get
  let found ← next
  match found.token with
  | .number .. | .string _ | .escaped _ | .codePoints _ | .dollars ..
  | .literal .. | .placeholder _ | .symbol ":" => do
    set start
    return .literal (← literal)
  | .symbol "[" => do
    let items ← listBefore "]" inner.whole
    expectSymbol "]"
    return .array "" items
  | .symbol "(" => inner.bracketedOperand
  | .symbol "\x7b" => inner.bracedCall found
  | .symbol text =>
    match signStrength? text with
    | some strength => return .signed (signText text) (← inner.expr strength)
    | none => expected "an expression" found
  | _ => expected "an expression" found

def untyped (length : Reader Expr) : Reader Expr := do
  match (← peek).token with
  | .word ident keyword => do
    discard next
    inner.wordOperand length ident keyword
  | _ => collated (← inner.wordless)

/-- An operand without its fields and indices, from a reader for the length of an interval. -/
def bare (length : Reader Expr) : Reader Expr := do
  match ← attempt (inner.typedLiteral length) with
  | some expr => return expr
  | none => inner.untyped length

/-- An operand without its fields and indices. The length of an interval is such an operand in turn,
behind the keyword, so the number of tokens bounds how often that happens. -/
def bareOperand : Reader Expr := do
  within ((← get).length + 1)
where
  within : Nat → Reader Expr
  | 0 => throw .tooDeep
  | n + 1 => inner.bare (within n)

/-- What is attached to the end of an operand: a field or an index. -/
inductive Access where
  | field (value : Expr)
  | index (parts : List Part)

def Access.parts : Access → List Part
  | .field value => [.text ".", .expr value]
  | .index parts => .text "[" :: parts ++ [.text "]"]

/-- The columns that a chain of accesses names, if it names nothing else. -/
def columnChain? : List Access → Option Name
  | [] => some []
  | .field (.column parts) :: rest => (columnChain? rest).map (parts ++ ·)
  | _ => none

/-- An index or a slice between brackets, behind the opening one. -/
def index : Reader (List Part) := do
  let lower ← if ← nextIsSymbol ":" then pure [] else do pure [Part.expr (← inner.whole)]
  unless lower.isEmpty do
    if ← acceptSymbol "]" then return lower
  expectSymbol ":"
  if ← acceptSymbol "]" then return lower ++ [.text ":"]
  let upper ← inner.whole
  let slice := lower ++ [.text ":", .expr upper]
  if ← acceptSymbol "]" then return slice
  expectSymbol ":"
  if ← acceptSymbol "]" then return slice
  let stride ← inner.whole
  expectSymbol "]"
  return slice ++ [.text ":", .expr stride]

/-- One access behind an operand, if there is one. The accesses before come last first. -/
def access (before : List Access) : Reader (Option (List Access)) := do
  if ← nextIsSymbol "." then
    if (← peekSecond).token == .symbol "*" then return none
    discard next
    match (← peek).token with
    | .string text => do
      discard next
      return some (.field (.column [⟨text, some .single⟩]) :: before)
    | _ => return some (.field (← inner.expr Strength.period) :: before)
  if ← acceptSymbol "[" then return some (.index (← inner.index) :: before)
  return none

/-- An operand with all that is attached to its end. -/
def operand : Reader Expr := do
  let root ← inner.bareOperand
  let chain := (← iterate inner.access []).reverse
  let columns : Option Name := match root with
    | .column parts => (columnChain? chain).map (parts ++ ·)
    | _ => none
  if (← nextIsSymbol ".") && (← peekSecond).token == .symbol "*" then
    discard next
    discard next
    match columns with
    | some parts => return .phrase (Clause.allColumnsOf parts)
    | none => expectedNext "an identifier or a '*' after '.'"
  match columns with
  | some parts => return .column parts
  | none =>
    if chain.isEmpty then return root
    return .phrase (.expr root :: chain.flatMap Access.parts)

end Grammar
end SqlBinding.Sql
