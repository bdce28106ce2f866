import SqlBinding.Syntax.Tree
import SqlBinding.Text.Decimal

namespace SqlBinding

def Literal.render : Literal → String
  | .placeholder text => text
  | .number text long => text ++ if long then "L" else ""
  | .string text => Text.quoted '\'' text
  | .national text => "N'" ++ text ++ "'"
  | .boolean value => if value then "true" else "false"
  | .null => "NULL"
  | .other written => written

def Connective.render : Connective → String
  | .and => "AND"
  | .or => "OR"

def Quantifier.render : Quantifier → String
  | .any => "ANY"
  | .some => "SOME"
  | .all => "ALL"

/-- The operator named by a symbol. -/
def Operator.ofSymbol : String → Operator
  | "->" => .arrow
  | "->>" => .longArrow
  | text => .symbol text

/-- Texts separated by commas. -/
def commaSeparated (texts : List String) : String := ", ".intercalate texts

def AssignmentTarget.render : AssignmentTarget → String
  | .column name => name.render
  | .tuple names => "(" ++ commaSeparated (names.map Name.render) ++ ")"

/-- An operator between its written operands. The right one of a quantified operator stands in
parentheses, unless it is a subquery, which brings its own. -/
def Operator.renderWith (op : Operator) (left right : String) (bracketed : Bool) : String :=
  match op with
  | .arrow => left ++ " -> " ++ right
  | .longArrow => left ++ " ->> " ++ right
  | .symbol text => left ++ " " ++ text ++ " " ++ right
  | .quantified text quantifier =>
    left ++ " " ++ text ++ " " ++ quantifier.render ++
      if bracketed then right else "(" ++ right ++ ")"

def Expr.isSubquery : Expr → Bool
  | .subquery _ => true
  | _ => false

def negationText (negated : Bool) : String := if negated then "NOT " else ""

mutual

def Expr.render : Expr → String
  | .column parts => Name.render parts
  | .literal value => value.render
  | .nested inner => "(" ++ inner.render ++ ")"
  | .logical connective left right =>
    left.render ++ " " ++ connective.render ++ " " ++ right.render
  | .negation operand => "NOT " ++ operand.render
  | .binary op left right => op.renderWith left.render right.render right.isSubquery
  | .inList negated needle items =>
    needle.render ++ " " ++ negationText negated ++ "IN (" ++
      commaSeparated (renderExprs items) ++ ")"
  | .isNull negated operand => operand.render ++ " IS " ++ negationText negated ++ "NULL"
  | .subquery query => "(" ++ query.render ++ ")"
  | .phrase parts => renderParts parts

def renderExprs : List Expr → List String
  | [] => []
  | expr :: rest => expr.render :: renderExprs rest

def Part.render : Part → String
  | .text written => written
  | .name parts => Name.render parts
  | .expr value => value.render
  | .query value => value.render
  | .statement value => value.render

def renderParts : List Part → String
  | [] => ""
  | part :: rest => part.render ++ renderParts rest

def Query.render : Query → String
  | ⟨opening, body, closing⟩ => renderParts opening ++ body.render ++ renderParts closing

def Body.render : Body → String
  | .select block => block.render
  | .query inner => "(" ++ inner.render ++ ")"
  | .values rows marked =>
    "VALUES " ++ commaSeparated (renderRows (if marked then "ROW(" else "(") rows)
  | .phrase parts => renderParts parts

def renderRows (opening : String) : List (List Expr) → List String
  | [] => []
  | row :: rest => (opening ++ commaSeparated (renderExprs row) ++ ")") :: renderRows opening rest

def Select.render : Select → String
  | ⟨projection, sources, views, selection, grouping⟩ =>
    "SELECT" ++ renderParts projection ++
      (if sources.isEmpty then "" else " FROM " ++ commaSeparated (renderSources sources)) ++
      renderParts views ++ renderSelection selection ++ renderParts grouping

def renderSelection : Option Expr → String
  | none => ""
  | some condition => " WHERE " ++ condition.render

def renderSources : List Source → List String
  | [] => []
  | source :: rest => source.render :: renderSources rest

def Source.render : Source → String
  | ⟨factor, joins⟩ => factor.render ++ renderJoins joins

def renderJoins : List Join → String
  | [] => ""
  | join :: rest => join.render ++ renderJoins rest

def Join.render : Join → String
  | ⟨keyword, factor, condition⟩ => " " ++ keyword ++ " " ++ factor.render ++ renderParts condition

def Alias.render : Alias → String
  | ⟨name, columns⟩ =>
    name.render ++ if columns.isEmpty then "" else " (" ++ renderParts columns ++ ")"

/-- The alias of a FROM item, with the keyword in front. -/
def renderLabel : Option Alias → String
  | none => ""
  | some label => " AS " ++ label.render

/-- The arguments of a function that is called for a table, with their parentheses. -/
def renderArguments : Option (List Part) → String
  | none => ""
  | some arguments => "(" ++ renderParts arguments ++ ")"

def Factor.render : Factor → String
  | .table name label => Name.render name ++ renderLabel label
  | .call name arguments numbering label closing =>
    Name.render name ++ renderArguments arguments ++ numbering ++ renderLabel label ++
      renderParts closing
  | .join inner label => "(" ++ inner.render ++ ")" ++ renderLabel label
  | .other parts label => renderParts parts ++ renderLabel label

def Statement.render : Statement → String
  | .query query => query.render
  | .insert insertion => insertion.render
  | .update change => change.render
  | .delete deletion => deletion.render
  | .other parts => renderParts parts

def Target.render : Target → String
  | .table name => Name.render name
  | .function call => "FUNCTION " ++ call.render

def renderInsertSource : Bool → Option Query → String
  | _, some source => source.render
  | true, none => "DEFAULT VALUES"
  | false, none => ""

def Insert.render : Insert → String
  | ⟨opening, target, label, columns, partition, source, closing⟩ =>
    opening ++ " " ++ target.render ++
      (match label with | some name => " AS " ++ name.render | none => "") ++ " " ++
      (if columns.isEmpty then "" else "(" ++ commaSeparated (columns.map Ident.render) ++ ") ") ++
      renderParts partition ++ renderInsertSource columns.isEmpty source ++ renderParts closing

def renderAssignments : List Assignment → List String
  | [] => []
  | assignment :: rest => assignment.render :: renderAssignments rest

def Assignment.render : Assignment → String
  | ⟨target, value⟩ => target.render ++ " = " ++ value.render

def renderClause (keyword : String) : Option (List Source) → String
  | none => ""
  | some sources => " " ++ keyword ++ " " ++ commaSeparated (renderSources sources)

def Update.render : Update → String
  | ⟨opening, target, assignments, sources, sourcesFirst, selection, closing⟩ =>
    opening ++ " " ++ target.render ++
      (if sourcesFirst then renderClause "FROM" sources else "") ++
      (if assignments.isEmpty then ""
        else " SET " ++ commaSeparated (renderAssignments assignments)) ++
      (if sourcesFirst then "" else renderClause "FROM" sources) ++
      renderSelection selection ++ renderParts closing

def Delete.render : Delete → String
  | ⟨tables, fromKeyword, sources, joined, selection, closing⟩ =>
    "DELETE " ++
      (if tables.isEmpty then "" else commaSeparated (tables.map Name.render) ++ " ") ++
      (if fromKeyword then "FROM " else "") ++ commaSeparated (renderSources sources) ++
      renderClause "USING" joined ++ renderSelection selection ++ renderParts closing

end

end SqlBinding
