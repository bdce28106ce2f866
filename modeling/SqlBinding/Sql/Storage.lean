import SqlBinding.Sql.Query

namespace SqlBinding.Sql

/-- The files that hold the rows of a table. -/
inductive RowFiles where
  | format (name : String)
  /-- The files are read and written by two classes. -/
  | classes (input output : Expr)

/-- How the rows of a table are laid out in files. Each part is optional. -/
structure RowLayout where
  rows : List Part := []
  files : Option RowFiles := none
  properties : Option (List Part) := none
  location : Option String := none

namespace RowLayout

/-- A layout as it is written. The format and the place of the files of an external table stand
behind its properties. -/
def parts (external : Bool) (layout : RowLayout) : List Part :=
  let format : List Part := match layout.files with
    | some (.format name) => [.text (" STORED AS " ++ name)]
    | _ => []
  let classes : List Part := match layout.files with
    | some (.classes input output) =>
      [.text " STORED AS INPUTFORMAT ", .expr input, .text " OUTPUTFORMAT ", .expr output]
    | _ => []
  let place := Part.clause " LOCATION '" (layout.location.map fun place => [.text (place ++ "'")])
  let properties := Part.clause " WITH SERDEPROPERTIES (" (layout.properties.map (· ++ [.text ")"]))
  layout.rows ++ (if external then [] else format) ++ classes ++ properties ++
    (if external then format else []) ++ place

end RowLayout

namespace Grammar
open Reader

variable (inner : Grammar)

/-- The words before each character that divides the values of a file or stands for no value. -/
def divisions : List (List String) :=
  [["FIELDS", "TERMINATED", "BY"], ["COLLECTION", "ITEMS", "TERMINATED", "BY"],
    ["MAP", "KEYS", "TERMINATED", "BY"], ["LINES", "TERMINATED", "BY"], ["NULL", "DEFINED", "AS"]]

/-- One more character that divides values, if there is one. Without the words that belong to it the
first word is passed over, and nothing more is read. -/
def division : Reader (Option (List Part)) := do
  for words in divisions do
    if ← acceptKeyword (words.headD "") then
      unless ← acceptKeywords words.tail do return none
      let first := [.text (" " ++ " ".intercalate words ++ " "), .name [← ident]]
      unless words.headD "" == "FIELDS" && (← acceptKeywords ["ESCAPED", "BY"]) do return some first
      return some (first ++ [.text " ESCAPED BY ", .name [← ident]])
  return none

/-- How a row is written in a file, behind ROW. -/
def rowFormat : Reader (List Part) := do
  expectKeyword "FORMAT"
  match ← acceptOneOf ["SERDE", "DELIMITED"] with
  | some "SERDE" => return [.text (" ROW FORMAT SERDE '" ++ (← quotedText) ++ "'")]
  | _ => return .text " ROW FORMAT DELIMITED" :: (← collect division).flatten

def fileFormat : Reader String := do
  let found ← next
  let format := found.token.keyword
  if ["AVRO", "JSONFILE", "ORC", "PARQUET", "RCFILE", "SEQUENCEFILE", "TEXTFILE"].contains
      format then
    return format
  expected "fileformat" found

/-- An option and its value. -/
def storageOption : Reader (List Part) := do
  let option ← ident
  expectSymbol "="
  return [.name [option], .text " = ", .expr (← inner.whole)]

/-- One more word about the layout of the rows, if there is one. A later one replaces an earlier. -/
def layoutStep (layout : RowLayout) : Reader (Option RowLayout) := do
  if ← acceptKeyword "ROW" then return some { layout with rows := ← rowFormat }
  if ← acceptKeyword "STORED" then
    expectKeyword "AS"
    unless ← acceptKeyword "INPUTFORMAT" do
      return some { layout with files := some (.format (← fileFormat)) }
    let input ← inner.whole
    expectKeyword "OUTPUTFORMAT"
    return some { layout with files := some (.classes input (← inner.whole)) }
  if ← acceptKeyword "LOCATION" then return some { layout with location := some (← quotedText) }
  if ← acceptKeywords ["WITH", "SERDEPROPERTIES"] then
    let properties ← bracketed (list inner.storageOption)
    return some { layout with properties := some (Part.commaSeparated properties) }
  return none

/-- How the rows are laid out in files. -/
def layout : Reader RowLayout := iterate inner.layoutStep {}

/-- The columns by which a table is divided into files, if they are given. -/
def partitionColumns : Reader (List Part) := do
  unless ← acceptKeywords ["PARTITIONED", "BY"] do return []
  let columns ← bracketed (list inner.columnDefinition)
  return .text " PARTITIONED BY (" :: Part.commaSeparated columns ++ [.text ")"]

def storageOptions (keyword : String) : Reader (List Part) := do
  unless ← acceptKeyword keyword do return []
  let options ← bracketed (listBefore ")" inner.storageOption)
  if options.isEmpty then return []
  return .text (" " ++ keyword ++ " (") :: Part.commaSeparated options ++ [.text ")"]

def remark : Reader (List Part) := do
  let marked ← acceptSymbol "="
  let found ← next
  match found.token with
  | .string text =>
    return [.text ((if marked then " COMMENT = '" else " COMMENT '") ++ text ++ "'")]
  | token => failAt ("Expected: Token::SingleQuotedString, found: " ++ token.render) none

def engine : Reader (List Part) := do
  discard (acceptSymbol "=")
  let found ← next
  match found.token with
  | .word engine _ =>
    let arguments ← if ← nextIsSymbol "(" then bracketed (listBefore ")" ident) else pure []
    return .text (" ENGINE = " ++ engine.value) ::
      if arguments.isEmpty then [] else Part.bracketed (Part.names arguments)
  | _ => expected "Token::Word" found

/-- Where a space for tables is kept, if it is said. -/
def spaceStorage : Reader String := do
  unless ← acceptKeyword "STORAGE" do return ""
  discard (acceptSymbol "=")
  let found ← next
  match found.token with
  | .word kind _ =>
    let kind := String.ofList (kind.value.toList.flatMap Token.keywordChar)
    unless ["DISK", "MEMORY"].contains kind do
      return ← expected "Storage type (DISK or MEMORY)" found
    return " STORAGE " ++ kind
  | _ => expected "Token::Word" found

/-- The space that a table is kept in, behind its keyword. -/
def tableSpace : Reader (List Part) := do
  discard (acceptSymbol "=")
  let found ← next
  match found.token with
  | .word space _ => return [.text (" TABLESPACE " ++ space.value ++ (← spaceStorage))]
  | .string space => return [.text (" TABLESPACE " ++ space ++ (← spaceStorage))]
  | _ => expected "Token::Word" found

/-- The tables that a table is made of, behind its keyword. -/
def mergedTables : Reader (List Part) := do
  discard (acceptSymbol "=")
  let found ← next
  unless found.token == .symbol "(" do return ← expected "Token::LParen" found
  let tables ← listBefore ")" ident
  expectSymbol ")"
  return .text " UNION = " :: if tables.isEmpty then [] else Part.bracketed (Part.names tables)

/-- The options that have a single value. -/
def valuedOptions : List (List String) :=
  [["DEFAULT", "CHARSET"], ["CHARSET"], ["DEFAULT", "CHARACTER", "SET"], ["CHARACTER", "SET"],
    ["DEFAULT", "COLLATE"], ["COLLATE"], ["DATA", "DIRECTORY"], ["INDEX", "DIRECTORY"],
    ["KEY_BLOCK_SIZE"], ["ROW_FORMAT"], ["PACK_KEYS"], ["STATS_AUTO_RECALC"], ["STATS_PERSISTENT"],
    ["STATS_SAMPLE_PAGES"], ["DELAY_KEY_WRITE"], ["COMPRESSION"], ["ENCRYPTION"], ["MAX_ROWS"],
    ["MIN_ROWS"], ["AUTOEXTEND_SIZE"], ["AVG_ROW_LENGTH"], ["CHECKSUM"], ["CONNECTION"],
    ["ENGINE_ATTRIBUTE"], ["PASSWORD"], ["SECONDARY_ENGINE_ATTRIBUTE"], ["INSERT_METHOD"],
    ["AUTO_INCREMENT"]]

/-- The value of an option: a literal or a name. -/
def optionValue : Reader Expr := do
  match ← attempt literal with
  | some value => return .literal value
  | none => return .column [← ident]

/-- An option of a table that needs no parentheses, if one follows. -/
def tableOption : Reader (Option (List Part)) := do
  if ← acceptKeywords ["START", "TRANSACTION"] then return some [.text " START TRANSACTION"]
  if ← acceptKeyword "COMMENT" then return some (← remark)
  if ← acceptKeyword "ENGINE" then return some (← engine)
  if ← acceptKeyword "TABLESPACE" then return some (← tableSpace)
  if ← acceptKeyword "UNION" then return some (← mergedTables)
  for words in valuedOptions do
    if ← acceptKeywords words then
      discard (acceptSymbol "=")
      return some [.text (" " ++ " ".intercalate words ++ " = "), .expr (← optionValue)]
  return none

/-- What happens to a temporary table at the end of a transaction, if it is said. -/
def onCommit : Reader String := do
  unless ← acceptKeywords ["ON", "COMMIT"] do return ""
  for words in [["DELETE", "ROWS"], ["PRESERVE", "ROWS"], ["DROP"]] do
    if ← acceptKeywords words then return " ON COMMIT " ++ " ".intercalate words
  failAt ("Expecting DELETE ROWS, PRESERVE ROWS or DROP" ++ (← peek).token.render) none

/-- The keys that an unnested table is ordered by, if they are given. -/
def storageOrder : Reader (List Part) := do
  unless ← acceptKeywords ["ORDER", "BY"] do return []
  if ← nextIsSymbol "(" then
    return .text " ORDER BY " :: Part.bracketed (Part.exprs (← inner.bracketedKeys))
  return [.text " ORDER BY ", .expr (← inner.whole)]

end Grammar
end SqlBinding.Sql
