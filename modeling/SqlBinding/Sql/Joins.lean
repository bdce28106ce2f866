import SqlBinding.Sql.Table

namespace SqlBinding.Sql

namespace Grammar
open Reader

variable (inner : Grammar)

/-- The words of a join that compares both sides, or nothing if no join follows. -/
def comparedJoin : Reader (Option String) := do
  let found ← peek
  match found.token.keyword with
  | "JOIN" | "STRAIGHT_JOIN" => do
    discard next
    return some found.token.keyword
  | "INNER" | "ANTI" | "SEMI" => do
    discard next
    expectKeyword "JOIN"
    return some (found.token.keyword ++ " JOIN")
  | "LEFT" | "RIGHT" => do
    discard next
    let side := found.token.keyword
    match ← acceptOneOf ["OUTER", "SEMI", "ANTI", "JOIN"] with
    | some "JOIN" => return some (side ++ " JOIN")
    | some kind => do
      expectKeyword "JOIN"
      return some (side ++ " " ++ kind ++ " JOIN")
    | none => failAt ("expected OUTER, SEMI, ANTI or JOIN after " ++ side) none
  | "FULL" => do
    discard next
    discard (acceptKeyword "OUTER")
    expectKeyword "JOIN"
    return some "FULL JOIN"
  | "OUTER" => expected "LEFT, RIGHT, or FULL" found
  | _ => return none

def joinCondition : Reader (List Part) := do
  if ← acceptKeyword "ON" then return Clause.joinOn (some (← inner.whole))
  unless ← acceptKeyword "USING" do return []
  unless ← nextIsSymbol "(" do return ← expectedNext "a list of columns in parentheses"
  return Clause.joinUsing (some (← bracketed (list name)))

/-- The keywords of a join that is read before the condition of the join in front of it. -/
def innerJoins : List String := ["JOIN", "INNER", "LEFT", "RIGHT", "FULL"]

/-- A join behind the item it is attached to, from a reader for factors and one for joins. If
another join follows before the condition, the joins from there on belong to the right side. -/
def join (factor : Reader Factor) (joins : Reader (List Join)) : Reader (Option Join) := do
  let scope := if ← acceptKeyword "GLOBAL" then "GLOBAL " else ""
  if ← acceptKeyword "CROSS" then
    match ← acceptOneOf ["JOIN", "APPLY"] with
    | some kind => return some ⟨scope ++ "CROSS " ++ kind, ← factor, []⟩
    | none => return ← expectedNext "JOIN or APPLY after CROSS"
  if ← acceptKeyword "OUTER" then
    expectKeyword "APPLY"
    return some ⟨scope ++ "OUTER APPLY", ← factor, []⟩
  if ← acceptKeyword "ASOF" then
    expectKeyword "JOIN"
    let table ← factor
    expectKeyword "MATCH_CONDITION"
    let closest ← bracketed inner.whole
    return some ⟨scope ++ "ASOF JOIN", table,
      [.text " MATCH_CONDITION (", .expr closest, .text ")"] ++ (← inner.joinCondition)⟩
  let natural ← acceptKeyword "NATURAL"
  match ← comparedJoin with
  | none => if natural then expectedNext "a join type after NATURAL" else return none
  | some words =>
    let table ← factor
    let right ← if innerJoins.contains (← peek).token.keyword then do
        pure (Factor.join ⟨table, ← joins⟩ none)
      else pure table
    if natural && words != "STRAIGHT_JOIN" then
      return some ⟨scope ++ "NATURAL " ++ words, right, []⟩
    if natural then return some ⟨scope ++ words, right, []⟩
    return some ⟨scope ++ words, right, ← inner.joinCondition⟩

/-- The joins behind an item. They nest only behind further keywords, so the number of tokens bounds
how deep. -/
def joins (factor : Reader Factor) : Reader (List Join) := do
  within ((← get).length + 1)
where
  within : Nat → Reader (List Join)
  | 0 => return []
  | n + 1 => collect (inner.join factor (within n))

def sourceOf (factor : Reader Factor) : Reader Source := do
  let first ← factor
  return ⟨first, ← inner.joins factor⟩

/-- Joins between parentheses, behind the opening one. -/
def nestedJoin (factor : Reader Factor) : Reader Factor := do
  let source ← inner.sourceOf factor
  let nests := match source.factor with
    | .join .. => true
    | _ => !source.joins.isEmpty
  unless nests do return ← expectedNext "joined table"
  expectSymbol ")"
  return .join source (← inner.tableLabel)

/-- A factor within a number of parentheses. A query is tried before joins where both may start. -/
def factorWithin : Nat → Reader Factor
  | 0 => throw .tooDeep
  | parentheses + 1 => do
    if ← acceptKeyword "LATERAL" then inner.lateral
    else if ← acceptKeyword "TABLE" then inner.tableOf
    else if ← acceptSymbol "(" then
      match ← attempt (inner.derived false) with
      | some table => inner.pivoted table
      | none => inner.nestedJoin (factorWithin parentheses)
    else if ← acceptKeyword "UNNEST" then inner.unnest
    else
      match ← inner.documentTable with
      | some table => return table
      | none => inner.pivoted (← inner.namedTable)

/-- A factor. There are no more parentheses than tokens. -/
def factor : Reader Factor := do inner.factorWithin ((← get).length + 1)

def source : Reader Source := inner.sourceOf inner.factor

end Grammar
end SqlBinding.Sql
