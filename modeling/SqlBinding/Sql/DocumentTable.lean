import SqlBinding.Sql.Expression

namespace SqlBinding.Sql

namespace Grammar
open Reader

variable (inner : Grammar)

/-- The columns behind a table's name, each perhaps with its type. -/
def labelColumns : Reader (List Part) := do
  unless ← nextIsSymbol "(" do return []
  Part.commaSeparated <$> bracketed (list do
    let column ← ident
    let type ← attempt inner.dataType
    return .name [column] :: Part.clause " " (type.map (·.parts)))

def tableLabel : Reader (Option Alias) := do
  match ← label Reserved.afterTable with
  | none => return none
  | some name => return some { name, columns := ← inner.labelColumns }

/-- An expression, perhaps with a new name behind `AS`. -/
def renamable : Reader (List Part) := do
  let value ← inner.whole
  return .expr value :: Part.clause " AS " (← behindKeyword "AS" (do return [.name [← ident]]))

/-- What to do where a document lacks the value of a column, or where it has a wrong one. -/
def columnFaults : Reader String := do
  let (empty, wrong) ← iterate (fun (empty, wrong) => do
    let handling ← if ← acceptKeyword "NULL" then pure (some "NULL")
      else if ← acceptKeyword "ERROR" then pure (some "ERROR")
      else if ← acceptKeyword "DEFAULT" then pure (some ("DEFAULT " ++ (← literal).render))
      else pure none
    match handling with
    | none => return none
    | some handling =>
      expectKeyword "ON"
      if ← acceptKeyword "EMPTY" then return some (" " ++ handling ++ " ON EMPTY", wrong)
      expectKeyword "ERROR"
      return some (empty, " " ++ handling ++ " ON ERROR")) ("", "")
  return empty ++ wrong

/-- A column of a table that is made from a document. Columns may be nested in others, each behind a
keyword, so the number of tokens bounds how deep. -/
def documentColumn : Reader (List Part) := do
  within ((← get).length + 1)
where
  within : Nat → Reader (List Part)
  | 0 => throw .tooDeep
  | n + 1 => do
    if ← acceptKeyword "NESTED" then
      discard (acceptKeyword "PATH")
      let path ← literal
      expectKeyword "COLUMNS"
      let columns ← bracketed (list (within n))
      return .text ("NESTED PATH " ++ path.render ++ " COLUMNS (") :: Part.commaSeparated columns ++
        [.text ")"]
    let column ← ident
    if ← acceptKeyword "FOR" then
      expectKeyword "ORDINALITY"
      return [.name [column], .text " FOR ORDINALITY"]
    let type ← inner.dataType
    let tested ← acceptKeyword "EXISTS"
    expectKeyword "PATH"
    let path ← literal
    return .name [column] :: .text " " :: type.parts ++
      [.text ((if tested then " EXISTS" else "") ++ " PATH " ++ path.render ++ (← columnFaults))]

/-- A table made from a JSON document by paths, behind the opening parenthesis. -/
def jsonTable : Reader Factor := do
  let document ← inner.whole
  expectSymbol ","
  let path ← literal
  expectKeyword "COLUMNS"
  let columns ← bracketed (list inner.documentColumn)
  expectSymbol ")"
  return .other (.text "JSON_TABLE(" :: .expr document ::
    .text (", " ++ path.render ++ " COLUMNS(") :: Part.commaSeparated columns ++ [.text "))"])
    (← inner.tableLabel)

/-- A column of a table that is made from a JSON document by its fields. -/
def fieldColumn : Reader (List Part) := do
  let column ← ident
  let type ← inner.dataType
  let path ← match (← peek).token with
    | .string text => do
      discard next
      pure (" " ++ Text.quoted '\'' text)
    | _ => pure ""
  let nested ← acceptKeyword "AS"
  if nested then expectKeyword "JSON"
  return .name [column] :: .text " " :: type.parts ++
    [.text (path ++ if nested then " AS JSON" else "")]

/-- A table made from a JSON document by its fields, behind the opening parenthesis. -/
def fieldTable : Reader Factor := do
  let document ← inner.whole
  let path ← if ← acceptSymbol "," then pure (", " ++ (← literal).render) else pure ""
  expectSymbol ")"
  let columns ← behindKeyword "WITH" (bracketed (list inner.fieldColumn))
  return .other (.text "OPENJSON(" :: .expr document :: .text (path ++ ")") ::
    Part.clause " WITH " (columns.map fun columns => Part.bracketed (Part.commaSeparated columns)))
    (← inner.tableLabel)

/-- A column of a table that is made from an XML document. -/
def elementColumn : Reader (List Part) := do
  let column ← ident
  if ← acceptKeyword "FOR" then
    expectKeyword "ORDINALITY"
    return [.name [column], .text " FOR ORDINALITY"]
  let type ← inner.dataType
  let path ← behindKeyword "PATH" inner.whole
  let default ← behindKeyword "DEFAULT" inner.whole
  let required ← acceptKeywords ["NOT", "NULL"]
  unless required do discard (acceptKeyword "NULL")
  return .name [column] :: .text " " :: type.parts ++ Part.exprClause " PATH " path ++
    Part.exprClause " DEFAULT " default ++ [.text (if required then " NOT NULL" else "")]

/-- What is handed to the expression for the rows of an XML document. The word that may follow `BY`
is not required. -/
def passedValue : Reader (List Part) := do
  let byValue ← if ← acceptKeyword "BY" then acceptKeyword "VALUE" else pure false
  return .text (if byValue then "BY VALUE " else "") :: (← inner.renamable)

/-- The namespaces of an XML document, if they are given. -/
def namespaces : Reader (List Part) := do
  unless ← acceptKeyword "XMLNAMESPACES" do return []
  let spaces ← bracketed <| list do
    let address ← inner.whole
    expectKeyword "AS"
    return [Part.expr address, .text " AS ", .name [← ident]]
  expectSymbol ","
  return .text "XMLNAMESPACES(" :: Part.commaSeparated spaces ++ [.text "), "]

def xmlTable : Reader Factor := do
  let namespaces ← inner.namespaces
  let rows ← inner.whole
  let passed ← behindKeyword "PASSING" (list inner.passedValue)
  expectKeyword "COLUMNS"
  let columns ← list inner.elementColumn
  expectSymbol ")"
  return .other (.text "XMLTABLE(" :: namespaces ++ .expr rows ::
    Part.clause " PASSING " (passed.map Part.commaSeparated) ++ .text " COLUMNS " ::
    Part.commaSeparated columns ++ [.text ")"]) (← inner.tableLabel)

/-- A table made from a document, if one starts here. -/
def documentTable : Reader (Option Factor) := do
  unless (← peekSecond).token == .symbol "(" do return none
  let keyword := (← peek).token.keyword
  let behind (reader : Reader Factor) : Reader (Option Factor) := do
    discard next
    discard next
    some <$> reader
  match keyword with
  | "JSON_TABLE" => behind inner.jsonTable
  | "OPENJSON" => behind inner.fieldTable
  | "XMLTABLE" => behind inner.xmlTable
  | _ => return none

end Grammar
end SqlBinding.Sql
