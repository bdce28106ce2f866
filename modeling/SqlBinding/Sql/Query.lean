import SqlBinding.Sql.Joins

namespace SqlBinding.Sql

namespace Grammar
open Reader

variable (inner : Grammar)

def item : Reader (List Part) := do
  match ← star with
  | some parts => return parts
  | none =>
    let value ← inner.whole
    if let .column [name] := value then
      if name.quote.isNone && Text.lower name.value == "from" then
        return ← failAt ("Expected an expression, found: " ++ name.value) (← peek).location
    match ← label Reserved.afterItem with
    | some name => return Clause.renamed value name
    | none => return [.expr value]

def returning : Reader (List Part) := do
  return Clause.returning (← behindKeyword "RETURNING" (list inner.item))

def distinctness : Reader (List Part) := do
  let location := (← peek).location
  let all ← acceptKeyword "ALL"
  unless ← acceptKeyword "DISTINCT" do return []
  if all then return ← failAt "Cannot specify both ALL and DISTINCT" location
  unless ← acceptKeyword "ON" do return [.text " DISTINCT"]
  expectSymbol "("
  let keys ← listBefore ")" inner.whole
  expectSymbol ")"
  return .text " DISTINCT ON (" :: Part.exprs keys ++ [.text ")"]

def top : Reader (List Part) := do
  unless ← acceptKeyword "TOP" do return []
  let count ← if ← nextIsSymbol "(" then do
      pure [Part.text " TOP (", .expr (← bracketed inner.whole), .text ")"]
    else do pure [Part.text (" TOP " ++ (← size))]
  let percent ← acceptKeyword "PERCENT"
  let ties ← acceptKeywords ["WITH", "TIES"]
  return count ++
    [.text ((if percent then " PERCENT" else "") ++ if ties then " WITH TIES" else "")]

/-- Keys between parentheses, perhaps none. -/
def bracketedKeys : Reader (List Expr) := bracketed (listBefore ")" inner.whole)

/-- A set of keys; a single key needs no parentheses. -/
def keySet : Reader (List Expr) := do
  if ← nextIsSymbol "(" then inner.bracketedKeys else return [← inner.whole]

/-- The sets of keys of CUBE or ROLLUP. A single key is written without parentheses. -/
def keySets (opening : String) : Reader (List Part) := do
  let sets ← bracketed <| list do
    match ← inner.keySet with
    | [single] => return [Part.expr single]
    | several => return Part.bracketed (Part.exprs several)
  return .text opening :: Part.commaSeparated sets ++ [.text ")"]

/-- Sets of keys, each written in parentheses, from a reader for one of them. -/
def groupingSets (keys : Reader (List Expr)) : Reader (List Part) := do
  let sets ← bracketed (list keys)
  return .text "GROUPING SETS (" ::
    Part.commaSeparated (sets.map fun keys => Part.bracketed (Part.exprs keys)) ++ [.text ")"]

def group : Reader (List Part) := do
  if ← acceptKeywords ["GROUPING", "SETS"] then return ← groupingSets inner.bracketedKeys
  if ← acceptKeyword "CUBE" then return ← inner.keySets "CUBE ("
  if ← acceptKeyword "ROLLUP" then return ← inner.keySets "ROLLUP ("
  if (← nextIsSymbol "(") && (← peekSecond).token == .symbol ")" then
    discard next
    discard next
    return [.text "()"]
  return [.expr (← inner.whole)]

/-- Expressions behind two keywords, if those are next. -/
def keysBehind (keywords : List String) : Reader (List Part) := do
  unless ← acceptKeywords keywords do return []
  return .text (" " ++ " ".intercalate keywords ++ " ") :: Part.exprs (← list inner.whole)

def namedWindow : Reader (List Part) := do
  let name ← ident
  expectKeyword "AS"
  expectSymbol "("
  return .name [name] :: .text " AS (" :: (← inner.window) ++ [.text ")"]

/-- The definitions of windows and the condition on what they give, in either order. -/
def windows : Reader (List Part) := do
  let definitions : Reader (List Part) := do
    let windows ← behindKeyword "WINDOW" (list inner.namedWindow)
    return Part.clause " WINDOW " (windows.map Part.commaSeparated)
  let qualify : Reader (List Part) := do
    return Part.exprClause " QUALIFY " (← behindKeyword "QUALIFY" inner.whole)
  let early ← definitions
  let condition ← qualify
  if early.isEmpty then return condition ++ (← if condition.isEmpty then pure [] else definitions)
  return early ++ condition

/-- The groups of a SELECT, if there are any. Sets of keys may stand behind them without a comma. -/
def groups : Reader (List Part) := do
  unless ← acceptKeywords ["GROUP", "BY"] do return []
  let groups ← if ← acceptKeyword "ALL" then pure [.text " GROUP BY ALL"]
    else do pure (Clause.groupBy (← list inner.group))
  unless ← acceptKeywords ["GROUPING", "SETS"] do return groups
  return groups ++ .text " " :: (← groupingSets inner.keySet)

/-- The grouping of a SELECT and what follows it. -/
def grouping : Reader (List Part) := do
  let groups ← inner.groups
  let clusters ← inner.keysBehind ["CLUSTER", "BY"]
  let shares ← inner.keysBehind ["DISTRIBUTE", "BY"]
  let order ← if ← acceptKeywords ["SORT", "BY"] then
      pure (.text " SORT BY " :: Part.exprs (← list inner.whole))
    else pure []
  let having ← behindKeyword "HAVING" inner.whole
  return groups ++ clusters ++ shares ++ order ++ Clause.having having ++ (← inner.windows)

/-- The table behind INTO. -/
def intoTable : Reader (List Part) := do
  unless ← acceptKeyword "INTO" do return []
  let temporary ← acceptOneOf ["TEMPORARY", "TEMP"]
  let unlogged ← acceptKeyword "UNLOGGED"
  let keyword ← acceptKeyword "TABLE"
  let table ← name
  return [.text (" INTO" ++ (if temporary.isSome then " TEMPORARY" else "") ++
    (if unlogged then " UNLOGGED" else "") ++ (if keyword then " TABLE" else "") ++ " "),
    .name table]

/-- The words that end the names of the columns that a view adds. -/
def afterView : List String := ["WHERE", "GROUP", "CLUSTER", "HAVING", "LATERAL"]

/-- A view that adds rows to those of the FROM clause, if one follows. -/
def lateralView : Reader (Option (List Part)) := do
  unless ← acceptKeywords ["LATERAL", "VIEW"] do return none
  let outer ← acceptKeyword "OUTER"
  let rows ← inner.whole
  let view ← name
  let columns := (← list (label afterView)).filterMap id
  return some (.text (if outer then " LATERAL VIEW OUTER " else " LATERAL VIEW ") :: .expr rows ::
    .text " " :: .name view ::
    if columns.isEmpty then [] else .text " AS " :: Part.names columns)

def select : Reader Select := do
  let distinct ← inner.distinctness
  let top ← inner.top
  let items ← if ← nextIsKeyword "FROM" then pure [] else list inner.item
  let into ← intoTable
  let sources ← behindKeyword "FROM" (list inner.source)
  let views ← collect inner.lateralView
  let selection ← behindKeyword "WHERE" inner.whole
  return ⟨Clause.projection (distinct ++ top) items ++ into, sources.getD [], views.flatten,
    selection, ← inner.grouping⟩

/-- A VALUES list behind its keyword. If one row is marked as a row, all are. -/
def rows : Reader Body := do
  let rows ← list do
    let marked ← acceptKeyword "ROW"
    return (marked, ← bracketed (list inner.whole))
  return .values (rows.map Prod.snd) (rows.any Prod.fst)

/-- A whole table in the place of a query, behind its keyword. Three tokens are taken: a name that
is qualified once, or a name and two tokens that do not matter. -/
def tableBody : Reader Body := do
  let first ← next
  let second ← next
  let third ← next
  let wordOf (what : String) (found : Located) : Reader String := do
    match found.token with
    | .word name _ => return name.value
    | _ => expected what found
  if second.token == .symbol "." then
    let schema ← wordOf "Schema name" first
    let table ← wordOf "Table name" third
    return .phrase [.text ("TABLE " ++ schema ++ "." ++ table)]
  return .phrase [.text ("TABLE " ++ (← wordOf "Table name" first))]

/-- A body without an operation behind it. -/
def singleBody : Reader Body := do
  if ← acceptKeyword "SELECT" then return .select (← inner.select)
  else if ← nextIsSymbol "(" then return .query (← inner.bracketedQuery)
  else if ← acceptKeyword "VALUES" then inner.rows
  else if ← acceptKeyword "TABLE" then tableBody
  else expectedNext "SELECT, VALUES, or a subquery in the query body"

/-- The quantifier behind a set operation. -/
def setQuantifier : Reader String := do
  if ← acceptKeywords ["DISTINCT", "BY", "NAME"] then return " DISTINCT BY NAME"
  if ← acceptKeywords ["BY", "NAME"] then return " BY NAME"
  if ← acceptKeyword "ALL" then
    return if ← acceptKeywords ["BY", "NAME"] then " ALL BY NAME" else " ALL"
  if ← acceptKeyword "DISTINCT" then return " DISTINCT"
  return ""

/-- Bodies joined by operations, from the left. -/
def combine (right : Reader Body) (operations : List String) (start : Body) : Reader Body :=
  iterate (fun left => do
    match ← acceptOneOf operations with
    | none => return none
    | some operation =>
      let quantifier ← setQuantifier
      return some (.combined (operation ++ quantifier) left (← right))) start

/-- A body; INTERSECT binds more strongly than UNION and EXCEPT. -/
def body : Reader Body := do
  let term : Reader Body := do combine inner.singleBody ["INTERSECT"] (← inner.singleBody)
  combine term ["UNION", "EXCEPT", "MINUS"] (← term)

def namedQuery : Reader (List Part) := do
  let name ← ident
  let columns ← if ← nextIsKeyword "AS" then pure [] else inner.labelColumns
  expectKeyword "AS"
  let kept ← if ← acceptKeyword "MATERIALIZED" then pure "MATERIALIZED "
    else if ← acceptKeywords ["NOT", "MATERIALIZED"] then pure "NOT MATERIALIZED "
    else pure ""
  let query ← inner.bracketedQuery
  let origin ← behindKeyword "FROM" ident
  return Clause.namedQuery { name, columns } kept query ++
    Part.clause " FROM " (origin.map fun origin => [.name [origin]])

/-- The WITH clause of a query, if there is one. -/
def opening : Reader (List Part) := do
  unless ← acceptKeyword "WITH" do return []
  let recursive ← acceptKeyword "RECURSIVE"
  return Clause.named recursive (← list inner.namedQuery)

def offset : Reader (List Part) := do
  let count ← inner.whole
  let unit ← acceptOneOf ["ROWS", "ROW"]
  return Clause.offset (some count) ++ [.text ((unit.map (" " ++ ·)).getD "")]

def limit : Reader (List Part) := do
  if ← acceptKeyword "ALL" then return []
  return Clause.limit (some (← inner.whole))

/-- The rows to take and to skip, in either order; the limit is written first. -/
def limits : Reader (List Part) := do
  let early ← behindKeyword "OFFSET" inner.offset
  let count ← behindKeyword "LIMIT" inner.limit
  let late ← if early.isNone && count.isSome then behindKeyword "OFFSET" inner.offset else pure none
  return count.getD [] ++ early.getD [] ++ late.getD []

/-- One of several keywords, which has to be next. -/
def expectOneOf (keywords : List String) : Reader String := do
  match ← acceptOneOf keywords with
  | some keyword => return keyword
  | none => expectedNext ("one of " ++ " or ".intercalate keywords)

def fetch : Reader (List Part) := do
  discard (expectOneOf ["FIRST", "NEXT"])
  let count ← if (← acceptOneOf ["ROW", "ROWS"]).isSome then pure []
    else do
      let count ← literal
      let percent ← acceptKeyword "PERCENT"
      discard (expectOneOf ["ROW", "ROWS"])
      pure [.expr (.literal count), .text (if percent then " PERCENT " else " ")]
  let ties ← if ← acceptKeyword "ONLY" then pure false
    else if ← acceptKeywords ["WITH", "TIES"] then pure true
    else expectedNext "one of ONLY or WITH TIES"
  return .text " FETCH FIRST " :: count ++ [.text (if ties then "ROWS WITH TIES" else "ROWS ONLY")]

/-- A lock on the rows found, behind FOR. -/
def lock : Reader (List Part) := do
  let kind ← expectOneOf ["UPDATE", "SHARE"]
  let table ← behindKeyword "OF" name
  let waiting ← if ← acceptKeyword "NOWAIT" then pure " NOWAIT"
    else if ← acceptKeywords ["SKIP", "LOCKED"] then pure " SKIP LOCKED"
    else pure ""
  return .text (" FOR " ++ kind) :: Part.clause " OF " (table.map fun table => [.name table]) ++
    [.text waiting]

/-- The options of a document, each behind a comma. An unknown option is no option at all. -/
def documentOptions (options : List (List String)) : Reader (List (List String × String)) := do
  let found ← collect do
    unless ← acceptSymbol "," do return none
    if ← acceptKeyword "ROOT" then
      return some [(["ROOT"], "('" ++ (← bracketed quotedText) ++ "')")]
    for option in options do
      if ← acceptKeyword (option.headD "") then
        expectKeywords option.tail
        return some [(option, "")]
    return some []
  return found.flatten

/-- The options that were given, in the order in which they are written; the last one of a kind
counts. -/
def writtenOptions (order : List (List String)) (given : List (List String × String)) : String :=
  String.join (order.filterMap fun option =>
    (given.reverse.lookup option).map fun value => ", " ++ " ".intercalate option ++ value)

/-- The element that surrounds each row of a document, if it is named. -/
def elementName : Reader String := do
  if ← nextIsSymbol "(" then return "('" ++ (← bracketed quotedText) ++ "')" else return ""

/-- The rows found as a document, behind FOR, if it is asked for. -/
def document : Reader (Option (List Part)) := do
  if ← acceptKeyword "BROWSE" then return some [.text " FOR BROWSE"]
  if ← acceptKeyword "XML" then
    let layout ← if ← acceptKeyword "RAW" then pure ("RAW" ++ (← elementName))
      else if ← acceptKeyword "AUTO" then pure "AUTO"
      else if ← acceptKeyword "EXPLICIT" then pure "EXPLICIT"
      else if ← acceptKeyword "PATH" then pure ("PATH" ++ (← elementName))
      else failAt "Expected FOR XML [RAW | AUTO | EXPLICIT | PATH ]" none
    let options ← documentOptions [["ELEMENTS"], ["BINARY", "BASE64"], ["TYPE"]]
    return some [.text (" FOR XML " ++ layout ++
      writtenOptions [["BINARY", "BASE64"], ["TYPE"], ["ROOT"], ["ELEMENTS"]] options)]
  if ← acceptKeyword "JSON" then
    match ← acceptOneOf ["AUTO", "PATH"] with
    | none => return ← failAt "Expected FOR JSON [AUTO | PATH ]" none
    | some layout =>
      let options ← documentOptions [["INCLUDE_NULL_VALUES"], ["WITHOUT_ARRAY_WRAPPER"]]
      return some [.text (" FOR JSON " ++ layout ++
        writtenOptions [["ROOT"], ["INCLUDE_NULL_VALUES"], ["WITHOUT_ARRAY_WRAPPER"]] options)]
  return none

/-- The locks behind a query, and the document that ends them. -/
def locks : Reader (List Part) := do
  let (parts, _) ← iterate (fun (parts, ended) => do
    if ended then return none
    unless ← acceptKeyword "FOR" do return none
    match ← document with
    | some document => return some (parts ++ document, true)
    | none => return some (parts ++ (← lock), false)) ([], false)
  return parts

/-- What stands behind the body of a query. -/
def closing : Reader (List Part) := do
  let order ← inner.orderBy
  let limits ← inner.limits
  let fetched ← behindKeyword "FETCH" fetch
  return Part.clause " " order ++ limits ++ fetched.getD [] ++ (← locks)

end Grammar
end SqlBinding.Sql
