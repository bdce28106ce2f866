import SqlBinding.Sql.Query

namespace SqlBinding.Sql

namespace Grammar
open Reader

variable (inner : Grammar)

def assignmentTarget : Reader AssignmentTarget := do
  if ← nextIsSymbol "(" then return .tuple (← bracketed (list name))
  return .column (← name)

def assignment : Reader Assignment := do
  let target ← assignmentTarget
  expectSymbol "="
  return ⟨target, ← inner.whole⟩

def targetParts : AssignmentTarget → List Part
  | .column name => [.name name]
  | .tuple names => Part.bracketed (Part.commaSeparated (names.map fun name => [.name name]))

def storedParts (assignments : List Assignment) : List Part :=
  Part.commaSeparated (assignments.map fun entry =>
    targetParts entry.target ++ [.text " = ", .expr entry.value])

/-- What is to be done where a row is already there, behind ON. -/
def conflict : Reader (List Part) := do
  unless ← acceptKeyword "CONFLICT" do
    expectKeywords ["DUPLICATE", "KEY", "UPDATE"]
    return .text " ON DUPLICATE KEY UPDATE " :: storedParts (← list inner.assignment)
  let target ← if ← acceptKeywords ["ON", "CONSTRAINT"] then
      pure [.text " ON CONSTRAINT ", .name (← name)]
    else if ← nextIsSymbol "(" then
      pure (.text "(" :: Part.names (← columnList) ++ [.text ")"])
    else pure []
  expectKeyword "DO"
  if ← acceptKeyword "NOTHING" then return .text " ON CONFLICT" :: target ++ [.text " DO NOTHING"]
  expectKeywords ["UPDATE", "SET"]
  let assignments ← list inner.assignment
  let selection ← behindKeyword "WHERE" inner.whole
  return .text " ON CONFLICT" :: target ++ .text " DO UPDATE SET " :: storedParts assignments ++
    Part.exprClause " WHERE " selection

/-- The columns of an INSERT, the partition and the query for its rows. A parenthesis before SELECT
opens the query. -/
def insertion : Reader (List Ident × List Part × Option Query) := do
  if ← acceptKeywords ["DEFAULT", "VALUES"] then return ([], [], none)
  let (columns, partition) ←
    if (← nextIsSymbol "(") && (← peekSecond).token.keyword == "SELECT" then
      pure ([], [])
    else do
      let columns ← if ← nextIsSymbol "(" then columnList else pure []
      let keys ← behindKeyword "PARTITION" (bracketed (list inner.whole))
      pure (columns,
        Part.clause "PARTITION (" (keys.map fun keys => Part.exprs keys ++ [.text ") "]))
  if (← nextIsKeyword "FORMAT") || (← nextIsKeyword "SETTINGS") then
    return (columns, partition, none)
  return (columns, partition, some (← inner.query))

/-- What is to be done where a row breaks a rule, if it is said. -/
def resolution : Reader (Option String) := do
  for word in ["REPLACE", "ROLLBACK", "ABORT", "FAIL", "IGNORE"] do
    if ← acceptKeywords ["OR", word] then return some ("OR " ++ word)
  if ← acceptKeyword "REPLACE" then return some "OR REPLACE"
  return none

/-- The formats of the files that rows are written to. -/
def fileFormats : List String :=
  ["AVRO", "JSONFILE", "ORC", "PARQUET", "RCFILE", "SEQUENCEFILE", "TEXTFILE"]

/-- Rows written to the files of a directory, behind the words that open the statement. -/
def directory (opening : String) : Reader Statement := do
  let path ← quotedText
  let format ← if ← acceptKeywords ["STORED", "AS"] then do
      let found ← next
      unless fileFormats.contains found.token.keyword do return ← expected "fileformat" found
      pure (" STORED AS " ++ found.token.keyword)
    else pure ""
  return .other [.text (opening ++ " DIRECTORY '" ++ path ++ "'" ++ format ++ " "),
    .query (← inner.query)]

def insert : Reader Statement := do
  let resolution ← resolution
  let overwrite ← acceptKeyword "OVERWRITE"
  let into ← acceptKeyword "INTO"
  let localFiles ← acceptKeyword "LOCAL"
  let word (present : Bool) (text : String) : List String := if present then [text] else []
  if ← acceptKeyword "DIRECTORY" then
    return ← inner.directory
      (Insert.openingOf (word overwrite "OVERWRITE" ++ word localFiles "LOCAL"))
  let table ← acceptKeyword "TABLE"
  let opening := Insert.openingOf <| match resolution with
    | some resolution => [resolution, "INTO"]
    | none => word overwrite "OVERWRITE" ++ word into "INTO" ++ word table "TABLE"
  let target ← name
  let label ← behindKeyword "AS" ident
  let (columns, partition, source) ← inner.insertion
  let conflicts ← behindKeyword "ON" inner.conflict
  let returning ← inner.returning
  return .insert ⟨opening, .table target, label, columns, partition, source,
    conflicts.getD [] ++ returning⟩

/-- An UPDATE behind its keyword. The FROM clause stands before SET or behind it. -/
def update : Reader Statement := do
  let opening := Update.openingOf (← resolution).toList
  let target ← inner.source
  let early ← behindKeyword "FROM" (list inner.source)
  expectKeyword "SET"
  let assignments ← list inner.assignment
  let late ← if early.isNone then behindKeyword "FROM" (list inner.source) else pure none
  let selection ← behindKeyword "WHERE" inner.whole
  let returning ← inner.returning
  return .update ⟨opening, target, assignments, early <|> late, early.isSome, selection, returning⟩

def delete : Reader Statement := do
  let tables ← if ← nextIsKeyword "FROM" then pure [] else list name
  expectKeyword "FROM"
  let sources ← list inner.source
  let joined ← behindKeyword "USING" (list inner.source)
  let selection ← behindKeyword "WHERE" inner.whole
  let returning ← inner.returning
  let order ← inner.orderBy
  let limit ← behindKeyword "LIMIT" inner.limit
  return .delete ⟨tables, true, sources, joined, selection,
    returning ++ Part.clause " " order ++ limit.getD []⟩

end Grammar
end SqlBinding.Sql
