import SqlBinding.Sql.Storage

namespace SqlBinding.Sql

namespace Grammar
open Reader

variable (inner : Grammar)

def nameParts (names : List Name) : List Part :=
  Part.commaSeparated (names.map fun name => [.name name])

def onCluster : Reader (List Part) := do
  unless ← acceptKeywords ["ON", "CLUSTER"] do return []
  return [.text " ON CLUSTER ", .name [← ident]]

/-- A TRUNCATE behind its keyword. The partition is written behind what it stands before. -/
def truncate : Reader Statement := do
  let table ← acceptKeyword "TABLE"
  let only ← acceptKeyword "ONLY"
  let names ← list name
  let partition ← behindKeyword "PARTITION" (bracketed (list inner.whole))
  let identity ← if ← acceptKeywords ["RESTART", "IDENTITY"] then pure " RESTART IDENTITY"
    else if ← acceptKeywords ["CONTINUE", "IDENTITY"] then pure " CONTINUE IDENTITY"
    else pure ""
  let dependents := ((← acceptOneOf ["CASCADE", "RESTRICT"]).map (" " ++ ·)).getD ""
  let cluster ← onCluster
  let opening := "TRUNCATE " ++ (if table then "TABLE " else "") ++ if only then "ONLY " else ""
  return .other (.text opening :: nameParts names ++ .text (identity ++ dependents) ::
    Part.clause " PARTITION (" (partition.map fun keys => Part.exprs keys ++ [.text ")"]) ++
    cluster)

/-- The kinds of objects that are dropped by their names. -/
def droppable : List (List String) :=
  [["TABLE"], ["VIEW"], ["MATERIALIZED", "VIEW"], ["INDEX"], ["ROLE"], ["SCHEMA"], ["DATABASE"],
    ["SEQUENCE"], ["STAGE"], ["TYPE"]]

def droppedKind : Reader String := do
  for kind in droppable do
    if ← acceptKeywords kind then return " ".intercalate kind
  expectedNext ("CONNECTOR, DATABASE, EXTENSION, FUNCTION, INDEX, POLICY, PROCEDURE, ROLE, " ++
    "SCHEMA, SECRET, SEQUENCE, STAGE, TABLE, TRIGGER, TYPE, VIEW, or MATERIALIZED VIEW after DROP")

def drop : Reader Statement := do
  let kind ← droppedKind
  let present ← acceptKeywords ["IF", "EXISTS"]
  let names ← list name
  let location := (← peek).location
  let cascade ← acceptKeyword "CASCADE"
  let restrict ← acceptKeyword "RESTRICT"
  let purge ← acceptKeyword "PURGE"
  if cascade && restrict then
    return ← failAt "Cannot specify both CASCADE and RESTRICT in DROP" location
  if kind == "ROLE" && (cascade || restrict || purge) then
    return ← failAt "Cannot specify CASCADE, RESTRICT, or PURGE in DROP ROLE" location
  return .other (.text ("DROP " ++ kind ++ (if present then " IF EXISTS " else " ")) ::
    nameParts names ++ [.text ((if cascade then " CASCADE" else "") ++
      (if restrict then " RESTRICT" else "") ++ if purge then " PURGE" else "")])

/-- The columns of a new table and the rules for its rows. -/
structure Columns where
  columns : List (List Part) := []
  rules : List (List Part) := []

/-- The columns and the rules as they are written: the columns first. -/
def Columns.parts (entries : Columns) : List Part :=
  .text " (" :: Part.commaSeparated (entries.columns ++ entries.rules) ++ [.text ")"]

/-- One more entry in the list of a new table, and whether another one follows. -/
def tableEntry (entries : Columns) : Reader (Columns × Bool) := do
  let entries ← match ← constraint inner.tableRule "PRIMARY, UNIQUE, FOREIGN, or CHECK" with
    | some rule => pure { entries with rules := entries.rules ++ [rule] }
    | none => do
      unless (← peek).token.isWord do return ← expectedNext "column name or constraint definition"
      pure { entries with columns := entries.columns ++ [← inner.columnDefinition] }
  if ← acceptSymbol "," then return (entries, true)
  if ← acceptSymbol ")" then return (entries, false)
  expectedNext "',' or ')' after column definition"

/-- The list of columns and rules of a new table, if there is one. -/
def tableEntries : Reader Columns := do
  unless ← acceptSymbol "(" do return {}
  if ← acceptSymbol ")" then return {}
  let (entries, _) ← iterate (fun (entries, more) => do
    unless more do return none
    some <$> inner.tableEntry entries) (({} : Columns), true)
  return entries

/-- The table that a new one is made after, if it is given. -/
def modelTable : Reader (List Part) := do
  let like ← if (← acceptOneOf ["LIKE", "ILIKE"]).isSome then tryName else pure none
  let clone ← if ← acceptKeyword "CLONE" then tryName else pure none
  return Part.clause " LIKE " (like.map fun table => [.name table]) ++
    Part.clause " CLONE " (clone.map fun table => [.name table])
where
  /-- A name, or nothing if there is none. -/
  tryName : Reader (Option Name) := tryCatch (some <$> name) fun _ => return none

/-- The columns as they are written in front of a table's other parts; none are written if the rows
or the columns come from elsewhere. -/
def Columns.listed (entries : Columns) (elsewhere : Bool) : List Part :=
  if entries.columns.isEmpty && entries.rules.isEmpty && elsewhere then [] else entries.parts

/-- A CREATE TABLE behind the words that open it. Of the options of the table only those of one kind
count: the ones behind TBLPROPERTIES, else those behind WITH, else those without parentheses. -/
def createTable (opening : String) : Reader Statement := do
  let absent ← acceptKeywords ["IF", "NOT", "EXISTS"]
  let table ← name
  let cluster ← onCluster
  let model ← modelTable
  let entries ← inner.tableEntries
  let keyless ← acceptKeywords ["WITHOUT", "ROWID"]
  let division ← inner.partitionColumns
  let layout ← inner.layout
  let parents ← behindKeyword "INHERITS" do
    unless ← nextIsSymbol "(" do return ← expectedNext "a list of columns in parentheses"
    bracketed (list name)
  let options ← inner.storageOptions "WITH"
  let properties ← inner.storageOptions "TBLPROPERTIES"
  let partition ← if ← acceptKeywords ["PARTITION", "BY"] then some <$> inner.whole else pure none
  let options ← if !properties.isEmpty then pure properties
    else if !options.isEmpty then pure options
    else List.flatten <$> collect tableOption
  let order ← inner.storageOrder
  let commit ← onCommit
  let strict ← acceptKeyword "STRICT"
  let query ← behindKeyword "AS" inner.query
  return .other (.text (opening ++ if absent then "IF NOT EXISTS " else "") :: .name table ::
    cluster ++ entries.listed (query.isSome || !model.isEmpty) ++
    .text (if keyless then " WITHOUT ROWID" else "") :: model ++ division ++ layout.parts false ++
    options ++ order ++
    Part.clause " INHERITS (" (parents.map fun parents => nameParts parents ++ [.text ")"]) ++
    Part.exprClause " PARTITION BY " partition ++
    .text (commit ++ if strict then " STRICT" else "") ::
    Part.clause " AS " (query.map fun query => [.query query]))

/-- A CREATE EXTERNAL TABLE behind the words that open it. -/
def createExternalTable (opening : String) : Reader Statement := do
  expectKeyword "TABLE"
  let absent ← acceptKeywords ["IF", "NOT", "EXISTS"]
  let table ← name
  let entries ← inner.tableEntries
  let division ← inner.partitionColumns
  let layout ← inner.layout
  let properties ← inner.storageOptions "TBLPROPERTIES"
  return .other (.text (opening ++ "TABLE " ++ if absent then "IF NOT EXISTS " else "") ::
    .name table :: entries.parts ++ division ++ layout.parts true ++ properties)

/-- The words about a view that may stand before what is created. They say nothing about a table. -/
def viewWords : Reader Unit := do
  if ← acceptKeyword "ALGORITHM" then
    expectSymbol "="
    discard (expectOneOf ["UNDEFINED", "MERGE", "TEMPTABLE"])
  if ← acceptKeyword "DEFINER" then
    expectSymbol "="
    discard name
  if ← acceptKeywords ["SQL", "SECURITY"] then discard (expectOneOf ["DEFINER", "INVOKER"])

def create : Reader Statement := do
  let word (present : Bool) (text : String) : String := if present then text ++ " " else ""
  let replace ← acceptKeywords ["OR", "REPLACE"]
  discard (acceptKeywords ["OR", "ALTER"])
  let bound ← acceptKeyword "LOCAL"
  let global ← acceptKeyword "GLOBAL"
  let transient ← acceptKeyword "TRANSIENT"
  let temporary ← acceptOneOf ["TEMP", "TEMPORARY"]
  viewWords
  unless ← acceptKeyword "TABLE" do
    if ← acceptKeyword "EXTERNAL" then
      return ← inner.createExternalTable ("CREATE " ++ word replace "OR REPLACE" ++ "EXTERNAL ")
    if replace then
      return ← expectedNext
        "[EXTERNAL] TABLE or [MATERIALIZED] VIEW or FUNCTION after CREATE OR REPLACE"
    return ← expectedNext "an object type after CREATE"
  inner.createTable ("CREATE " ++ word replace "OR REPLACE" ++
    (if global then "GLOBAL " else word bound "LOCAL") ++ word temporary.isSome "TEMPORARY" ++
    word transient "TRANSIENT" ++ "TABLE ")

end Grammar
end SqlBinding.Sql
