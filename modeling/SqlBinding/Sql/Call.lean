import SqlBinding.Sql.TimeField

namespace SqlBinding.Sql

namespace Grammar
open Reader

variable (inner : Grammar)

def bracketedQuery : Reader Query := bracketed inner.query

def sortKey : Reader (List Part) := do
  let key ← inner.whole
  let direction ← acceptOneOf ["ASC", "DESC"]
  let nulls ← if ← acceptKeywords ["NULLS", "FIRST"] then pure " NULLS FIRST"
    else if ← acceptKeywords ["NULLS", "LAST"] then pure " NULLS LAST"
    else pure ""
  return [.expr key, .text ((direction.map (" " ++ ·)).getD "" ++ nulls)]

/-- The sort keys behind `ORDER BY`, if the clause is there. -/
def orderBy : Reader (Option (List Part)) := do
  if ← acceptKeywords ["ORDER", "BY"] then
    return some (Clause.orderBy (← list inner.sortKey))
  return none

/-- How far a bound of a window frame lies from the current row. A string is the length of an
interval. -/
def frameDistance : Reader Part := do
  if ← acceptKeyword "UNBOUNDED" then return .text "UNBOUNDED"
  match (← peek).token with
  | .string _ => return .expr (← interval (do collated (.literal (← literal))))
  | _ => return .expr (← inner.whole)

def frameBound : Reader (List Part) := do
  if ← acceptKeywords ["CURRENT", "ROW"] then return [.text "CURRENT ROW"]
  let distance ← inner.frameDistance
  match ← acceptOneOf ["PRECEDING", "FOLLOWING"] with
  | some side => return [distance, .text (" " ++ side)]
  | none => expectedNext "PRECEDING or FOLLOWING"

/-- The frame of a window. -/
def frame : Reader (List Part) := do
  let found ← next
  let unit := found.token.keyword
  unless ["ROWS", "RANGE", "GROUPS"].contains unit do return ← expected "ROWS, RANGE, GROUPS" found
  unless ← acceptKeyword "BETWEEN" do return .text (unit ++ " ") :: (← inner.frameBound)
  let first ← inner.frameBound
  expectKeyword "AND"
  return .text (unit ++ " BETWEEN ") :: first ++ .text " AND " :: (← inner.frameBound)

/-- A window behind its opening parenthesis, up to the closing one. It may start with the name of
another window, which is no keyword. -/
def window : Reader (List Part) := do
  let base ← if (← peek).token.isPlainWord then do pure (some [Part.name [← ident]]) else pure none
  let partition ← if ← acceptKeywords ["PARTITION", "BY"] then
      pure (some (.text "PARTITION BY " :: Part.exprs (← list inner.whole)))
    else pure none
  let order ← inner.orderBy
  let frame ← if ← nextIsSymbol ")" then pure none else some <$> inner.frame
  expectSymbol ")"
  return Part.separated " " ([base, partition, order, frame].filterMap id)

/-- A star, perhaps with the name of a table before it, if one is next. -/
def star : Reader (Option (List Part)) := do
  let start ← get
  let found ← next
  let parts ← match found.token with
    | .symbol "*" => pure (some Clause.allColumns)
    | .word first _ => qualified [first]
    | .string text => qualified [⟨text, some .single⟩]
    | _ => pure none
  if parts.isNone then set start
  return parts
where
  qualified (first : Name) : Reader (Option (List Part)) := do
    let (table, starred) ← iterate (fun (table, starred) => do
      if starred then return none
      unless ← acceptSymbol "." do return none
      let found ← next
      match found.token with
      | .word part _ => return some (table ++ [part], false)
      | .string text => return some (table ++ [⟨text, some .single⟩], false)
      | .symbol "*" => return some (table, true)
      | _ => expected "an identifier or a '*' after '.'" found) (first, false)
    return if starred then some (Clause.allColumnsOf table) else none

def starOrExpr : Reader (List Part) := do
  match ← star with
  | some parts => return parts
  | none => return [.expr (← inner.whole)]

/-- The mark between the name of an argument and its value. -/
def argumentMark : Reader String := do
  if ← acceptKeyword "VALUE" then return " VALUE "
  else if ← acceptSymbol "=>" then return " => "
  else if ← acceptSymbol ":" then return " : "
  else expectedNext "argument operator"

/-- An argument of a function: an expression with its name before it, or else an expression or a
star without one. -/
def argument : Reader (List Part) := do
  let start ← get
  let first ← tryCatch (Except.ok <$> inner.whole) fun fault => return .error fault
  match first with
  | .error .tooDeep => throw .tooDeep
  | .error fault => unnamed start (throw fault)
  | .ok value =>
    let named ← attempt do return .expr value :: .text (← argumentMark) :: (← inner.starOrExpr)
    match named with
    | some parts => return parts
    | none => unnamed start (return [.expr value])
where
  /-- A star at the start of the argument, or else what was read from there. -/
  unnamed (start : List Located) (read : Reader (List Part)) : Reader (List Part) := do
    let reached ← get
    set start
    match ← star with
    | some parts => return parts
    | none =>
      set reached
      read

/-- How a call treats equal arguments, if it says so. -/
def repetition : Reader String := do
  let location := (← peek).location
  let all ← acceptKeyword "ALL"
  let distinct ← acceptKeyword "DISTINCT"
  if all && distinct then failAt "Cannot specify both ALL and DISTINCT" location
  else return if all then "ALL " else if distinct then "DISTINCT " else ""

/-- What a call makes of nulls when it builds a document, if it says so. -/
def documentNulls : Reader (Option (List Part)) := do
  for treatment in ["ABSENT", "NULL"] do
    if ← acceptKeywords [treatment, "ON", "NULL"] then return some [.text (treatment ++ " ON NULL")]
  return none

/-- What a call does when its text becomes too long, if it says so. -/
def overflow : Reader (Option (List Part)) := do
  unless ← acceptKeywords ["ON", "OVERFLOW"] do return none
  if ← acceptKeyword "ERROR" then return some [.text "ON OVERFLOW ERROR"]
  expectKeyword "TRUNCATE"
  let following := (← peek).token
  let filler ← if ["WITH", "WITHOUT"].contains following.keyword then pure []
    else if following.isText || following.isHexadecimal then do
      pure [Part.text " ", .expr (← inner.whole)]
    else expectedNext "either filler, WITH, or WITHOUT in LISTAGG"
  let counted ← acceptKeyword "WITH"
  unless counted || (← acceptKeyword "WITHOUT") do
    expectedNext "either WITH or WITHOUT in LISTAGG"
  expectKeyword "COUNT"
  return some (.text "ON OVERFLOW TRUNCATE" :: filler ++
    [.text (if counted then " WITH COUNT" else " WITHOUT COUNT")])

/-- The arguments of a function behind the opening parenthesis, up to the closing one. -/
def arguments : Reader (List Part) := do
  let leading ← documentNulls
  if ← acceptSymbol ")" then return leading.getD []
  let repetition ← repetition
  let values ← list inner.argument
  let order ← inner.orderBy
  let limit ← behindKeyword "LIMIT" (do return [.text "LIMIT ", .expr (← inner.whole)])
  let overflow ← inner.overflow
  let trailing ← documentNulls
  expectSymbol ")"
  let clauses := [leading, order, limit, overflow, trailing].filterMap id
  return .text repetition :: Part.commaSeparated values ++ clauses.flatMap (.text " " :: ·)

/-- The filter of a call. The words and the parenthesis that open it are taken one after the other,
and without all of them there is none. -/
def filter : Reader (List Part) := do
  unless ← acceptKeyword "FILTER" do return []
  unless ← acceptSymbol "(" do return []
  unless ← acceptKeyword "WHERE" do return []
  let condition ← inner.whole
  expectSymbol ")"
  return [.text " FILTER (WHERE ", .expr condition, .text ")"]

/-- What may follow the arguments of a function: an order within groups, a filter, a treatment of
nulls, a window. -/
def afterArguments : Reader (List Part) := do
  let group ← if ← acceptKeywords ["WITHIN", "GROUP"] then
      expectSymbol "("
      expectKeywords ["ORDER", "BY"]
      let keys ← list inner.sortKey
      expectSymbol ")"
      pure (.text " WITHIN GROUP (ORDER BY " :: Part.commaSeparated keys ++ [.text ")"])
    else pure []
  let filter ← inner.filter
  let nulls ← match ← acceptOneOf ["RESPECT", "IGNORE"] with
    | some treatment => do
      expectKeyword "NULLS"
      pure [Part.text (" " ++ treatment ++ " NULLS")]
    | none => pure []
  let windowed ← if ← acceptKeyword "OVER" then
      if ← acceptSymbol "(" then pure (.text " OVER (" :: (← inner.window) ++ [.text ")"])
      else pure [.text " OVER ", .name [← ident]]
    else pure []
  return group ++ filter ++ nulls ++ windowed

def call (name : Name) : Reader Expr := do
  expectSymbol "("
  let arguments ← inner.arguments
  return .call name arguments (← inner.afterArguments)

end Grammar
end SqlBinding.Sql
