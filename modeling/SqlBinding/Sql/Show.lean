import SqlBinding.Sql.Query

namespace SqlBinding.Sql

namespace Grammar
open Reader

variable (inner : Grammar)

/-- Which objects are shown, if they are limited. The pattern behind ILIKE is written without its
quotes. -/
def shownFilter : Reader (List Part) := do
  if ← acceptKeyword "LIKE" then return [.text (" LIKE " ++ Text.quoted '\'' (← quotedText))]
  if ← acceptKeyword "ILIKE" then
    return [.text (" ILIKE " ++ Text.escaped '\'' (← quotedText))]
  if ← acceptKeyword "WHERE" then return [.text " WHERE ", .expr (← inner.whole)]
  match ← attempt quotedText with
  | some text => return [.text (" " ++ Text.quoted '\'' text)]
  | none => return []

/-- Where the objects are that are shown, if it is said. -/
def shownPlace : Reader (List Part) := do
  match ← acceptOneOf ["FROM", "IN"] with
  | none => return []
  | some keyword =>
    match ← acceptOneOf ["ACCOUNT", "DATABASE", "SCHEMA", "TABLE", "VIEW"] with
    | some kind =>
      let limited ← if kind == "DATABASE" || kind == "SCHEMA" then
          if ← nextIsKeyword "LIMIT" then pure true
          else pure ((← nextIsKeyword "STARTS") && (← peekSecond).token.keyword == "WITH")
        else pure false
      let parent ← if limited then pure none else attempt name
      return .text (" " ++ keyword ++ " " ++ kind) ::
        Part.clause " " (parent.map fun parent => [.name parent])
    | none =>
      let parent ← name
      let outer ← if (← acceptOneOf ["FROM", "IN"]).isSome then some <$> ident else pure none
      return [.text (" " ++ keyword ++ " "), .name (outer.toList ++ parent)]

/-- What limits the objects that are shown. The filter is written last. -/
def shownOptions : Reader (List Part) := do
  let place ← shownPlace
  let filter ← inner.shownFilter
  let start ← if ← acceptKeywords ["STARTS", "WITH"] then
      pure [.text (" STARTS WITH " ++ (← literal).render)]
    else pure []
  let limit ← behindKeyword "LIMIT" inner.limit
  let origin ← behindKeyword "FROM" (do return [.text (← literal).render])
  return place ++ start ++ limit.getD [] ++ Part.clause " FROM " origin ++ filter

/-- A SHOW of a setting: all words up to the end of the text or an equals sign. -/
def shownSetting : Reader Statement := do
  let words ← collect do
    match (← peek).token with
    | .eof | .symbol "=" => return none
    | .word word _ => do
      discard next
      return some [Part.text " ", .name [word]]
    | _ => do
      discard next
      return some []
  return .other (.text "SHOW" :: words.flatten)

def display : Reader Statement := do
  let word (present : Bool) (text : String) : String := if present then text ++ " " else ""
  let terse ← acceptKeyword "TERSE"
  let extended ← acceptKeyword "EXTENDED"
  let full ← acceptKeyword "FULL"
  discard (acceptKeyword "SESSION")
  discard (acceptKeyword "GLOBAL")
  let external ← acceptKeyword "EXTERNAL"
  let shown (text : String) : Reader Statement := do
    return .other (.text ("SHOW " ++ text) :: (← inner.shownOptions))
  let withHistory (text : String) : Reader Statement := do
    shown (text ++ if ← acceptKeyword "HISTORY" then " HISTORY" else "")
  if (← acceptOneOf ["COLUMNS", "FIELDS"]).isSome then
    return ← shown (word extended "EXTENDED" ++ word full "FULL" ++ "COLUMNS")
  if ← acceptKeyword "TABLES" then
    let opening := word terse "TERSE" ++ word extended "EXTENDED" ++ word full "FULL" ++
      word external "EXTERNAL" ++ "TABLES"
    return ← if external then shown opening else withHistory opening
  if ← acceptKeywords ["MATERIALIZED", "VIEWS"] then
    return ← shown (word terse "TERSE" ++ "MATERIALIZED VIEWS")
  if ← acceptKeyword "VIEWS" then return ← shown (word terse "TERSE" ++ "VIEWS")
  if ← acceptKeyword "FUNCTIONS" then
    return .other (.text "SHOW FUNCTIONS" :: (← inner.shownFilter))
  if extended || full then
    return ← failAt "EXTENDED/FULL are not supported with this type of SHOW query" none
  if ← acceptKeyword "CREATE" then
    let kind ← expectOneOf ["TABLE", "TRIGGER", "FUNCTION", "PROCEDURE", "EVENT", "VIEW"]
    return .plain ("SHOW CREATE " ++ kind ++ " ") (← name)
  if ← acceptKeyword "COLLATION" then
    return .other (.text "SHOW COLLATION" :: (← inner.shownFilter))
  discard (acceptKeyword "VARIABLES")
  discard (acceptKeyword "STATUS")
  if ← acceptKeyword "DATABASES" then return ← withHistory (word terse "TERSE" ++ "DATABASES")
  if ← acceptKeyword "SCHEMAS" then return ← withHistory (word terse "TERSE" ++ "SCHEMAS")
  shownSetting

end Grammar
end SqlBinding.Sql
