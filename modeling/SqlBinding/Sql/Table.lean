import SqlBinding.Sql.DocumentTable

namespace SqlBinding.Sql

namespace Grammar
open Reader

variable (inner : Grammar)

/-- A query in the place of a table, behind the opening parenthesis. -/
def derived (isLateral : Bool) : Reader Factor := do
  let query ← inner.query
  expectSymbol ")"
  return .derived isLateral query (← inner.tableLabel)

/-- The arguments of a function that is called for a table, behind the opening parenthesis. -/
def tableArguments : Reader (List Part) := do
  let values ← listBefore ")" inner.argument
  expectSymbol ")"
  return Part.commaSeparated values

def ordinality : Reader String := do
  if ← acceptKeywords ["WITH", "ORDINALITY"] then return " WITH ORDINALITY" else return ""

def lateral : Reader Factor := do
  if ← acceptSymbol "(" then inner.derived true
  else
    let function ← name
    expectSymbol "("
    let arguments ← inner.tableArguments
    return .other (.text "LATERAL " :: .name function :: Part.bracketed arguments)
      (← inner.tableLabel)

/-- What follows UNNEST. The words for an offset are taken one after the other. -/
def unnest : Reader Factor := do
  let arrays ← bracketed (list inner.whole)
  let numbered ← ordinality
  let label ← inner.tableLabel
  unless ← acceptKeyword "WITH" do return .unnest arrays numbered label
  unless ← acceptKeyword "OFFSET" do return .unnest arrays numbered label
  let offset ← Reader.label Reserved.afterItem
  let named := Part.clause " AS " (offset.map fun name => [.name [name]])
  return .other ((Factor.unnest arrays numbered label).toParts ++ .text " WITH OFFSET" :: named)
    none

def tableOf : Reader Factor := do
  let value ← bracketed inner.whole
  return .other [.text "TABLE(", .expr value, .text ")"] (← inner.tableLabel)

/-- One of the buckets that a table is divided into, behind its keyword. -/
def sampleBucket : Reader (List Part) := do
  let bucket ← numeral
  expectKeywords ["OUT", "OF"]
  let total ← numeral
  let key ← behindKeyword "ON" inner.whole
  return .text (" (BUCKET " ++ bucket.render ++ " OUT OF " ++ total.render) ::
    Part.exprClause " ON " key ++ [.text ")"]

/-- How much of a table is sampled. A word that starts no expression stands for a size. -/
def sampleSize (enclosed : Bool) : Reader (List Part) := do
  let value ← match ← attempt inner.whole with
    | some value => pure value
    | none => do
      match (← next).token with
      | .word size _ => pure (Expr.literal (.placeholder size.value))
      | _ => failAt "Expecting number or byte length e.g. 100M" (← peek).location
  let unit ← acceptOneOf ["ROWS", "PERCENT"]
  return [.text (if enclosed then " (" else " "), .expr value,
    .text ((unit.map (" " ++ ·)).getD "" ++ if enclosed then ")" else "")]

/-- A sample of a table, if one is asked for. A bucket is written behind the seed. -/
def sample : Reader (List Part) := do
  match ← acceptOneOf ["TABLESAMPLE", "SAMPLE"] with
  | none => return []
  | some keyword =>
    let method ← acceptOneOf ["BERNOULLI", "ROW", "SYSTEM", "BLOCK"]
    let enclosed ← acceptSymbol "("
    let bucketed ← if enclosed then acceptKeyword "BUCKET" else pure false
    let bucket ← if bucketed then inner.sampleBucket else pure []
    let size ← if bucketed then pure [] else inner.sampleSize enclosed
    if enclosed then expectSymbol ")"
    let seed ← match ← acceptOneOf ["REPEATABLE", "SEED"] with
      | some word => pure (" " ++ word ++ " (" ++ (← bracketed numeral).render ++ ")")
      | none => pure ""
    let offset ← behindKeyword "OFFSET" inner.whole
    return .text (" " ++ keyword ++ (method.map (" " ++ ·)).getD "") :: size ++ .text seed ::
      bucket ++ Part.exprClause " OFFSET " offset

/-- Hints about the use of a table, if there are any. -/
def hints : Reader (List Part) := do
  unless (← nextIsKeyword "WITH") && (← peekSecond).token == .symbol "(" do return []
  discard next
  let hints ← bracketed (list inner.whole)
  return .text " WITH (" :: Part.exprs hints ++ [.text ")"]

/-- A table or a function called for one. -/
def namedTable : Reader Factor := do
  let table ← name
  let arguments ← if ← acceptSymbol "(" then some <$> inner.tableArguments else pure none
  let numbered ← ordinality
  let label ← inner.tableLabel
  let hints ← inner.hints
  let closing := hints ++ (← inner.sample)
  if arguments.isNone && numbered.isEmpty && closing.isEmpty then return .table table label
  return .call table arguments numbered label closing

/-- A call behind the name of its function, which is one word, perhaps under a new name. -/
def aggregate : Reader (List Part) := do
  match (← next).token with
  | .word function _ =>
    let value ← inner.call [⟨function.value, none⟩]
    return .expr value :: Part.clause " AS " (← behindKeyword "AS" (do return [.name [← ident]]))
  | _ => expectedNext "a function identifier"

/-- The values that become columns of a pivoted table. -/
def pivotValues : Reader (List Part) := do
  if ← acceptKeyword "ANY" then
    return .text "ANY" :: Part.clause " " (← inner.orderBy)
  if ← nextIsSubquery then return [.query (← inner.query)]
  return Part.commaSeparated (← list inner.renamable)

/-- What follows PIVOT: rows of the table become columns. -/
def pivot (table : Factor) : Reader Factor := do
  expectSymbol "("
  let aggregates ← list inner.aggregate
  expectKeyword "FOR"
  let column ← name
  expectKeyword "IN"
  let values ← bracketed inner.pivotValues
  let absent ← if ← acceptKeywords ["DEFAULT", "ON", "NULL"] then some <$> bracketed inner.whole
    else pure none
  expectSymbol ")"
  return .other (table.toParts ++ .text " PIVOT(" :: Part.commaSeparated aggregates ++
    .text " FOR " :: .name column :: .text " IN (" :: values ++ [.text ")"] ++
    Part.clause " DEFAULT ON NULL (" (absent.map fun value => [.expr value, .text ")"]) ++
    [.text ")"]) (← inner.tableLabel)

/-- What follows UNPIVOT: columns of the table become rows. -/
def unpivot (table : Factor) : Reader Factor := do
  expectSymbol "("
  let value ← ident
  expectKeyword "FOR"
  let column ← ident
  expectKeyword "IN"
  unless ← nextIsSymbol "(" do return ← expectedNext "a list of columns in parentheses"
  let columns ← columnList
  expectSymbol ")"
  return .other (table.toParts ++ [.text " UNPIVOT(", .name [value], .text " FOR ", .name [column],
    .text " IN ("] ++ Part.names columns ++ [.text "))"]) (← inner.tableLabel)

/-- A table with the turns of rows and columns behind it. -/
def pivoted (start : Factor) : Reader Factor :=
  iterate (fun table => do
    match ← acceptOneOf ["PIVOT", "UNPIVOT"] with
    | some "PIVOT" => some <$> inner.pivot table
    | some _ => some <$> inner.unpivot table
    | none => return none) start

end Grammar
end SqlBinding.Sql
