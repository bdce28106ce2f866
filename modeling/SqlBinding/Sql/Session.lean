import SqlBinding.Sql.Query

namespace SqlBinding.Sql

namespace Grammar
open Reader

variable (inner : Grammar)

/-- The levels of isolation between transactions. -/
def isolationLevels : List (List String) :=
  [["READ", "UNCOMMITTED"], ["READ", "COMMITTED"], ["REPEATABLE", "READ"], ["SERIALIZABLE"],
    ["SNAPSHOT"]]

def transactionMode : Reader (Option String) := do
  if ← acceptKeywords ["ISOLATION", "LEVEL"] then
    for level in isolationLevels do
      if ← acceptKeywords level then return some ("ISOLATION LEVEL " ++ " ".intercalate level)
    expectedNext "isolation level"
  else if ← acceptKeywords ["READ", "ONLY"] then return some "READ ONLY"
  else if ← acceptKeywords ["READ", "WRITE"] then return some "READ WRITE"
  else return none

/-- The modes of a transaction; a comma asks for another one. -/
def transactionModes : Reader (List String) := do
  let (modes, _) ← iterate (fun (modes, more) => do
    match ← transactionMode with
    | some mode => return some (modes ++ [mode], ← acceptSymbol ",")
    | none => if more then expectedNext "transaction mode" else return none) ([], false)
  return modes

/-- A statement of a few words and the modes of a transaction. -/
def transaction (opening : String) : Reader Statement := do
  let modes ← transactionModes
  return .other [.text (opening ++ if modes.isEmpty then "" else " " ++ commaSeparated modes)]

def start : Reader Statement := do
  let word ← acceptOneOf ["TRANSACTION", "WORK"]
  transaction ("BEGIN" ++ (word.map (" " ++ ·)).getD "")

/-- Whether a new transaction follows the one that ends. -/
def chaining : Reader String := do
  discard (acceptOneOf ["TRANSACTION", "WORK"])
  unless ← acceptKeyword "AND" do return ""
  let refused ← acceptKeyword "NO"
  expectKeyword "CHAIN"
  return if refused then "" else " AND CHAIN"

def commit (keyword : String) : Reader Statement := do
  return .other [.text (keyword ++ (← chaining))]

def rollback : Reader Statement := do
  let chain ← chaining
  unless ← acceptKeyword "TO" do return .other [.text ("ROLLBACK" ++ chain)]
  discard (acceptKeyword "SAVEPOINT")
  return .plain ("ROLLBACK" ++ chain ++ " TO SAVEPOINT ") [← ident]

def release : Reader Statement := do
  discard (acceptKeyword "SAVEPOINT")
  return .plain "RELEASE SAVEPOINT " [← ident]

/-- The value of a setting. Where its expression fails, what stands before the failure is taken. -/
def settingValue : Reader Expr := do
  if ← nextIsSubquery then return .subquery (← inner.query)
  tryCatch inner.whole fun _ => expectedNext "variable value"

/-- The values of a setting behind its name, if they follow. -/
def settingValues (opening : String) (setting : Name) : Reader (Option Statement) := do
  let assigned ← if ← acceptSymbol "=" then pure true else acceptKeyword "TO"
  unless assigned do return none
  let values ← list inner.settingValue
  return some (.other (.text opening :: .name setting :: .text " = " :: Part.exprs values))

/-- The character set of the session, behind NAMES. -/
def settingNames : Reader Statement := do
  if ← acceptKeyword "DEFAULT" then return .other [.text "SET NAMES DEFAULT"]
  let charset ← ident
  let collation ← behindKeyword "COLLATE" quotedText
  return .other [.text "SET NAMES ", .name [charset],
    .text ((collation.map (" COLLATE " ++ ·)).getD "")]

def setting : Reader Statement := do
  let outer ← acceptKeyword "HIVEVAR"
  let reach ← if outer then pure none else acceptOneOf ["SESSION", "LOCAL", "GLOBAL"]
  if outer then expectSymbol ":"
  let opening := "SET " ++ (reach.map (· ++ " ")).getD "" ++ if outer then "HIVEVAR:" else ""
  let role ← attempt do
    expectKeyword "ROLE"
    if ← acceptKeyword "NONE" then return (⟨"NONE", none⟩ : Ident) else ident
  if let some role := role then
    return .plain ("SET " ++ (reach.map (· ++ " ")).getD "" ++ "ROLE ") [role]
  let zone ← if ← acceptKeywords ["TIME", "ZONE"] then pure true else acceptKeyword "TIMEZONE"
  if zone then
    match ← inner.settingValues opening [⟨"TIMEZONE", none⟩] with
    | some statement => return statement
    | none =>
      let bound := if reach == some "LOCAL" then "LOCAL " else ""
      return .other [.text ("SET " ++ bound ++ "TIME ZONE "), .expr (← inner.whole)]
  if ← acceptKeyword "NAMES" then return ← settingNames
  if ← acceptKeyword "CHARACTERISTICS" then
    expectKeywords ["AS", "TRANSACTION"]
    return ← transaction "SET SESSION CHARACTERISTICS AS TRANSACTION"
  if ← acceptKeyword "TRANSACTION" then
    if ← acceptKeyword "SNAPSHOT" then
      return .other [.text ("SET TRANSACTION SNAPSHOT " ++ (← literal).render)]
    return ← transaction "SET TRANSACTION"
  match ← inner.settingValues opening (← name) with
  | some statement => return statement
  | none => expectedNext "equals sign or TO"

/-- The values for the parameters of a prepared statement. -/
def executeValues : Reader (List Part) := do
  if ← nextIsSymbol "(" then
    return Part.bracketed (Part.exprs (← bracketed (listBefore ")" inner.whole)))
  match (← peek).token with
  | .eof | .symbol ";" | .word _ "USING" => return []
  | _ => return .text " " :: Part.exprs (← list inner.whole)

def execute : Reader Statement := do
  let prepared ← name
  let values ← inner.executeValues
  let receivers ← behindKeyword "INTO" (list ident)
  let others ← behindKeyword "USING" (list inner.renamable)
  return .other (.text "EXECUTE " :: .name prepared :: values ++
    Part.clause " INTO " (receivers.map Part.names) ++
    Part.clause " USING " (others.map Part.commaSeparated))

def prepare : Reader Statement := do
  let prepared ← ident
  let types ← if ← nextIsSymbol "(" then
      let types ← bracketed (list inner.dataType)
      pure (Part.bracketed (Part.commaSeparated (types.map DataType.parts)) ++ [.text " "])
    else pure []
  expectKeyword "AS"
  return .other (.text "PREPARE " :: .name [prepared] :: .text " " :: types ++
    [.text "AS ", .statement (← inner.statement)])

def deallocate : Reader Statement := do
  let keyword ← acceptKeyword "PREPARE"
  return .plain ("DEALLOCATE " ++ if keyword then "PREPARE " else "") [← ident]

def procedure : Reader Statement := do
  let called ← name
  if ← nextIsSymbol "(" then return .other [.text "CALL ", .expr (← inner.call called)]
  return .plain "CALL " called

def assertion : Reader Statement := do
  let condition ← inner.whole
  return .assertion condition (← behindKeyword "AS" inner.whole)

/-- An option of an explanation, perhaps with a value. -/
def explainOption : Reader (List Part) := do
  let option ← ident
  if (← nextIsSymbol ",") || (← nextIsSymbol ")") then return [.name [option]]
  return [.name [option], .text " ", .expr (← inner.whole)]

/-- The words that ask for an explanation. -/
def explainKeywords : List String := ["EXPLAIN", "DESCRIBE", "DESC"]

/-- What kind of explanation is asked for. -/
def explanation (keyword : String) : Reader (List Part) := do
  if keyword == "EXPLAIN" && (← nextIsSymbol "(") then
    let options ← bracketed (list inner.explainOption)
    return .text "EXPLAIN (" :: Part.commaSeparated options ++ [.text ") "]
  if ← acceptKeywords ["QUERY", "PLAN"] then return [.text (keyword ++ " QUERY PLAN ")]
  if ← acceptKeyword "ESTIMATE" then return [.text (keyword ++ " ESTIMATE ")]
  let analyze ← acceptKeyword "ANALYZE"
  let verbose ← acceptKeyword "VERBOSE"
  let format ← behindKeyword "FORMAT" do
    let found ← next
    if ["TEXT", "GRAPHVIZ", "JSON"].contains found.token.keyword then return found.token.keyword
    expected "fileformat" found
  return [.text (keyword ++ " " ++ (if analyze then "ANALYZE " else "") ++
    (if verbose then "VERBOSE " else "") ++ ((format.map ("FORMAT " ++ · ++ " ")).getD ""))]

/-- An EXPLAIN behind its keyword. It explains a statement or a table, but no other explanation. -/
def explain (keyword : String) : Reader Statement := do
  let opening ← inner.explanation keyword
  let nested := explainKeywords.contains (← peek).token.keyword
  match ← attempt inner.statement with
  | some statement =>
    if nested then failAt "Explain must be root of the plan" none
    else return .other (opening ++ [.statement statement])
  | none =>
    let detail ← acceptOneOf ["EXTENDED", "FORMATTED"]
    return .plain (keyword ++ " " ++ (detail.map (· ++ " ")).getD "") (← name)

end Grammar
end SqlBinding.Sql
