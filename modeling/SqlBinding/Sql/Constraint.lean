import SqlBinding.Sql.Grammar

namespace SqlBinding.Sql

namespace Grammar
open Reader

variable (inner : Grammar)

def columnParts (opening : String) : Reader (List Part) := do
  unless ← nextIsSymbol "(" do return ← expectedNext "a list of columns in parentheses"
  return .text opening :: Part.names (← columnList) ++ [.text ")"]

def optionalColumns (opening : String) : Reader (List Part) := do
  if ← nextIsSymbol "(" then columnParts opening else return []

/-- When and whether a rule is checked: each of the three may be said once, in any order. -/
structure Timing where
  deferrable : Option String := none
  initially : Option String := none
  enforced : Option String := none

/-- One more word about when a rule is checked, if there is one. -/
def Timing.step (timing : Timing) : Reader (Option Timing) := do
  if timing.deferrable.isNone && (← acceptKeywords ["NOT", "DEFERRABLE"]) then
    return some { timing with deferrable := some " NOT DEFERRABLE" }
  if timing.deferrable.isNone && (← acceptKeyword "DEFERRABLE") then
    return some { timing with deferrable := some " DEFERRABLE" }
  if timing.initially.isNone && (← acceptKeyword "INITIALLY") then
    match ← acceptOneOf ["DEFERRED", "IMMEDIATE"] with
    | some state => return some { timing with initially := some (" INITIALLY " ++ state) }
    | none => return ← expectedNext "DEFERRED or IMMEDIATE"
  if timing.enforced.isNone && (← acceptKeyword "ENFORCED") then
    return some { timing with enforced := some " ENFORCED" }
  if timing.enforced.isNone && (← acceptKeywords ["NOT", "ENFORCED"]) then
    return some { timing with enforced := some " NOT ENFORCED" }
  return none

/-- When and whether a rule is checked, as it is written. -/
def timing : Reader String := do
  let timing ← iterate Timing.step {}
  return timing.deferrable.getD "" ++ timing.initially.getD "" ++ timing.enforced.getD ""

/-- What happens to a row whose key is no longer there. -/
def keyAction : Reader String := do
  for action in
      [["RESTRICT"], ["CASCADE"], ["SET", "NULL"], ["NO", "ACTION"], ["SET", "DEFAULT"]] do
    if ← acceptKeywords action then return " ".intercalate action
  expectedNext "one of RESTRICT, CASCADE, SET NULL, NO ACTION or SET DEFAULT"

/-- What happens when a row that is referred to goes or changes. Each case may be given once. -/
def keyActions : Reader String := do
  let (deleted, changed) ← iterate (fun (deleted, changed) => do
    if deleted.isEmpty && (← acceptKeywords ["ON", "DELETE"]) then
      return some (" ON DELETE " ++ (← keyAction), changed)
    if changed.isEmpty && (← acceptKeywords ["ON", "UPDATE"]) then
      return some (deleted, " ON UPDATE " ++ (← keyAction))
    return none) ("", "")
  return deleted ++ changed

def check : Reader (List Part) := do
  return [.text "CHECK (", .expr (← bracketed inner.whole), .text ")"]

/-- The options of the sequence that numbers a column, in their fixed order. -/
def sequenceOptions : Reader (List Part) := do
  let numbered (keyword word : String) : Reader (List Part) := do
    unless ← acceptKeyword keyword do return []
    let noise ← if word.isEmpty then pure false else acceptKeyword word
    return .text (" " ++ keyword ++ (if noise then " " ++ word else "") ++ " ") :: (← signedNumeral)
  let bound (keyword : String) : Reader (List Part) := do
    if ← acceptKeywords ["NO", keyword] then return [.text (" NO " ++ keyword)]
    numbered keyword ""
  let increment ← numbered "INCREMENT" "BY"
  let low ← bound "MINVALUE"
  let high ← bound "MAXVALUE"
  let start ← numbered "START" "WITH"
  let cache ← numbered "CACHE" ""
  let cycle ← if ← acceptKeywords ["NO", "CYCLE"] then pure [.text " NO CYCLE"]
    else if ← acceptKeyword "CYCLE" then pure [.text " CYCLE"]
    else pure []
  return increment ++ low ++ high ++ start ++ cache ++ cycle

/-- The sequence that numbers a column, behind the words that open it. -/
def identity (opening : String) : Reader (Option (List Part)) := do
  let options ← if ← nextIsSymbol "(" then bracketed sequenceOptions else pure []
  return some (.text opening ::
    if options.isEmpty then [] else .text " (" :: options ++ [.text " )"])

/-- How the values of a column are made, behind GENERATED. -/
def generation : Reader (Option (List Part)) := do
  if ← acceptKeywords ["ALWAYS", "AS", "IDENTITY"] then
    return ← identity "GENERATED ALWAYS AS IDENTITY"
  if ← acceptKeywords ["BY", "DEFAULT", "AS", "IDENTITY"] then
    return ← identity "GENERATED BY DEFAULT AS IDENTITY"
  unless ← acceptKeywords ["ALWAYS", "AS"] do return none
  unless ← nextIsSymbol "(" do return none
  let value ← bracketed inner.whole
  expectKeyword "STORED"
  return some [.text "GENERATED ALWAYS AS (", .expr value, .text ") STORED"]

/-- What a column is required to hold, if something more is said. Words about the numbering and the
order of a column that mean nothing here are passed over. -/
def columnRule : Reader (Option (List Part)) := do
  if ← acceptKeywords ["CHARACTER", "SET"] then return some [.text "CHARACTER SET ", .name (← name)]
  if ← acceptKeyword "COLLATE" then return some [.text "COLLATE ", .name (← name)]
  if ← acceptKeywords ["NOT", "NULL"] then return some [.text "NOT NULL"]
  if ← acceptKeyword "COMMENT" then
    let found ← next
    match found.token with
    | .string text | .dollars _ text =>
      return some [.text ("COMMENT " ++ Text.quoted '\'' text)]
    | _ => return ← expected "string literal" found
  if ← acceptKeyword "NULL" then return some [.text "NULL"]
  if ← acceptKeyword "DEFAULT" then return some [.text "DEFAULT ", .expr (← inner.whole)]
  if ← acceptKeywords ["PRIMARY", "KEY"] then return some [.text ("PRIMARY KEY" ++ (← timing))]
  if ← acceptKeyword "UNIQUE" then return some [.text ("UNIQUE" ++ (← timing))]
  if ← acceptKeyword "REFERENCES" then
    let table ← name
    let columns ← optionalColumns " ("
    let actions ← keyActions
    return some (.text "REFERENCES " :: .name table :: columns ++ [.text (actions ++ (← timing))])
  if ← acceptKeyword "CHECK" then return some (← inner.check)
  for word in [["AUTO_INCREMENT"], ["AUTOINCREMENT"], ["ASC"], ["DESC"], ["ON", "UPDATE"]] do
    discard (acceptKeywords word)
  if ← acceptKeyword "GENERATED" then return ← inner.generation
  discard (acceptKeyword "AS")
  discard (acceptKeyword "IDENTITY")
  return none

def indexKind : Reader (List Part) := do
  match ← acceptOneOf ["BTREE", "HASH", "GIN", "GIST", "SPGIST", "BRIN", "BLOOM"] with
  | some kind => return [.text (" USING " ++ kind)]
  | none => return [.text " USING ", .name [← ident]]

/-- The index behind a key and its columns. -/
def keyColumns : Reader (List Part) := do
  let index ← attempt ident
  let kind ← behindKeyword "USING" indexKind
  let columns ← columnParts " ("
  let options ← collect do
    if ← acceptKeyword "USING" then some <$> indexKind
    else if ← acceptKeyword "COMMENT" then
      return some [.text (" COMMENT '" ++ (← quotedText) ++ "'")]
    else return none
  let named := Part.clause " " (index.map fun index => [.name [index]])
  return named ++ kind.getD [] ++ columns ++ options.flatten ++ [.text (← timing)]

/-- Whether nulls count as equal values, if it is said. -/
def distinctNulls : Reader String := do
  unless ← acceptKeyword "NULLS" do return ""
  let equal ← acceptKeyword "NOT"
  expectKeyword "DISTINCT"
  return if equal then " NULLS NOT DISTINCT" else " NULLS DISTINCT"

/-- What the rows of a table are required to hold, if something is said. -/
def tableRule : Reader (Option (List Part)) := do
  if ← acceptKeyword "UNIQUE" then
    if (← acceptOneOf ["KEY", "INDEX"]).isSome then
      return ← expectedNext "\x60index_name\x60 or \x60(column_name [, ...])\x60"
    let nulls ← distinctNulls
    return some (.text ("UNIQUE" ++ nulls) :: (← keyColumns))
  if ← acceptKeyword "PRIMARY" then
    expectKeyword "KEY"
    return some (.text "PRIMARY KEY" :: (← keyColumns))
  if ← acceptKeyword "FOREIGN" then
    expectKeyword "KEY"
    let columns ← columnParts " ("
    expectKeyword "REFERENCES"
    let table ← name
    let foreign ← optionalColumns "("
    let actions ← keyActions
    return some (.text "FOREIGN KEY" :: columns ++ .text " REFERENCES " :: .name table ::
      foreign ++ [.text (actions ++ (← timing))])
  if ← acceptKeyword "CHECK" then return some (← inner.check)
  return none

/-- A rule, perhaps with a name before it. -/
def constraint (rule : Reader (Option (List Part))) (missing : String) :
    Reader (Option (List Part)) := do
  match ← behindKeyword "CONSTRAINT" ident with
  | none => rule
  | some label =>
    match ← rule with
    | some parts => return some (.text "CONSTRAINT " :: .name [label] :: .text " " :: parts)
    | none => expectedNext missing

def columnRules : Reader (List Part) := do
  let rules ← collect (constraint inner.columnRule "constraint details after CONSTRAINT <name>")
  return rules.flatMap (.text " " :: ·)

end Grammar
end SqlBinding.Sql
