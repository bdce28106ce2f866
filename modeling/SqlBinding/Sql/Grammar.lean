import SqlBinding.Sql.Literals
import SqlBinding.Syntax.Forms

namespace SqlBinding.Sql

/-- The readers for what is nested one level deeper. An expression is read up to the operators that
do not bind more strongly than the given strength. -/
structure Grammar where
  expr : Nat → Reader Expr
  query : Reader Query
  statement : Reader Statement

/-- The readers at the level where nothing may be nested any more. -/
def Grammar.exhausted : Grammar :=
  ⟨fun _ => throw .tooDeep, throw .tooDeep, throw .tooDeep⟩

def Grammar.whole (inner : Grammar) : Reader Expr := inner.expr 0

namespace Strength

def period : Nat := 200
def cast : Nat := 140
def bracket : Nat := 130
def collation : Nat := 120
def timeZone : Nat := 110
def power : Nat := 100
def product : Nat := 90
def sum : Nat := 80
def exclusiveOr : Nat := 75
def other : Nat := 70
def pattern : Nat := 60
def comparison : Nat := 50
def test : Nat := 40
def negation : Nat := 30
def conjunction : Nat := 20
def disjunction : Nat := 10
def none : Nat := 0

/-- The symbols that compare two values, and so may be quantified. -/
def comparisons : List String :=
  [">", "<", ">=", "<=", "=", "==", "<>", "~", "~*", "!~", "!~*", "~~", "~~*", "!~~", "!~~*"]

/-- The symbols that are no operators between operands. -/
def separators : List String :=
  ["(", ")", ",", ";", ".", ":", "=>", "\\", "]", "\x7b", "\x7d", "!!", "|/", "||/", "@-@"]

def ofSymbol (text : String) : Nat :=
  if separators.contains text then none
  else if comparisons.contains text || text == "<=>" || text == ":=" then comparison
  else if text == "::" then cast
  else if text == "[" then bracket
  else if text == "^" then power
  else if text == "*" || text == "/" || text == "%" then product
  else if text == "+" || text == "-" then sum
  else other

/-- The strength of a keyword as an operator. The meaning of `NOT` and `AT` hangs on the words that
follow. -/
def ofKeyword (keyword second third : String) : Nat :=
  match keyword with
  | "OR" => disjunction
  | "AND" => conjunction
  | "XOR" => exclusiveOr
  | "AT" => if second == "TIME" && third == "ZONE" then timeZone else none
  | "NOT" =>
    if ["IN", "BETWEEN", "LIKE", "ILIKE", "RLIKE", "REGEXP", "SIMILAR"].contains second then pattern
    else none
  | "IS" => test
  | "IN" | "BETWEEN" | "OVERLAPS" | "LIKE" | "ILIKE" | "RLIKE" | "REGEXP" | "SIMILAR"
  | "OPERATOR" => pattern
  | "DIV" => product
  | "COLLATE" => collation
  | _ => none

/-- The strength of the next token as an operator. -/
def ahead : Reader Nat := do
  let first := Reader.ahead (← get)
  match (first.headD Located.eof).token with
  | .symbol text => return ofSymbol text
  | .word _ keyword =>
    let second := Reader.ahead (first.drop 1)
    let third := Reader.ahead (second.drop 1)
    let keywordOf (entries : List Located) := (entries.headD Located.eof).token.keyword
    return ofKeyword keyword (keywordOf second) (keywordOf third)
  | _ => return none

end Strength

namespace Reserved

/-- Keywords that cannot name an item of a projection unless `AS` stands before them. -/
def afterItem : List String :=
  ["WITH", "EXPLAIN", "ANALYZE", "SELECT", "WHERE", "GROUP", "SORT", "HAVING", "ORDER", "TOP",
    "LATERAL", "VIEW", "LIMIT", "OFFSET", "FETCH", "UNION", "EXCEPT", "INTERSECT", "MINUS",
    "CLUSTER", "DISTRIBUTE", "RETURNING", "FROM", "INTO", "END"]

/-- Keywords that cannot name a table unless `AS` stands before them. -/
def afterTable : List String :=
  ["WITH", "EXPLAIN", "ANALYZE", "SELECT", "WHERE", "GROUP", "SORT", "HAVING", "ORDER", "PIVOT",
    "UNPIVOT", "TOP", "LATERAL", "VIEW", "LIMIT", "OFFSET", "FETCH", "UNION", "EXCEPT", "INTERSECT",
    "MINUS", "ON", "JOIN", "INNER", "CROSS", "FULL", "LEFT", "RIGHT", "NATURAL", "USING", "CLUSTER",
    "DISTRIBUTE", "GLOBAL", "ANTI", "SEMI", "RETURNING", "ASOF", "MATCH_CONDITION", "OUTER", "SET",
    "QUALIFY", "WINDOW", "END", "FOR", "PARTITION", "PREWHERE", "SETTINGS", "FORMAT", "START",
    "CONNECT", "MATCH_RECOGNIZE", "SAMPLE", "TABLESAMPLE", "FROM", "OPEN"]

/-- Keywords that cannot name a column where the form they open is incomplete. -/
def asColumn : List String := ["EXISTS", "INTERVAL", "STRUCT", "TRIM"]

end Reserved

namespace Reader

/-- A new name, with or without `AS`; without it a keyword that goes on with the clause is none. -/
def label (reserved : List String) : Reader (Option Ident) := do
  let explicit ← acceptKeyword "AS"
  let found ← peek
  match found.token with
  | .word name keyword =>
    if explicit || !reserved.contains keyword then
      discard next
      return some name
    return none
  | .string text => do
    discard next
    return some ⟨text, some .single⟩
  | _ => if explicit then expected "an identifier after AS" found else return none

end Reader
end SqlBinding.Sql
