import SqlBinding.ParamMap
import SqlBinding.Syntax.Tree

namespace SqlBinding

def Literal.placeholders : Literal → List String
  | .placeholder text => [text]
  | _ => []

mutual

/-- The texts of all placeholders in an expression, from left to right. -/
def Expr.placeholders : Expr → List String
  | .column _ => []
  | .literal value => value.placeholders
  | .nested inner => inner.placeholders
  | .logical _ left right => left.placeholders ++ right.placeholders
  | .negation operand => operand.placeholders
  | .binary _ left right => left.placeholders ++ right.placeholders
  | .inList _ needle items => needle.placeholders ++ placeholdersOfExprs items
  | .isNull _ operand => operand.placeholders
  | .subquery query => query.placeholders
  | .phrase parts => placeholdersOfParts parts

def placeholdersOfExprs : List Expr → List String
  | [] => []
  | expr :: rest => expr.placeholders ++ placeholdersOfExprs rest

def Part.placeholders : Part → List String
  | .text _ => []
  | .name _ => []
  | .expr value => value.placeholders
  | .query value => value.placeholders
  | .statement value => value.placeholders

def placeholdersOfParts : List Part → List String
  | [] => []
  | part :: rest => part.placeholders ++ placeholdersOfParts rest

def Query.placeholders : Query → List String
  | ⟨opening, body, closing⟩ =>
    placeholdersOfParts opening ++ body.placeholders ++ placeholdersOfParts closing

def Body.placeholders : Body → List String
  | .select block => block.placeholders
  | .query inner => inner.placeholders
  | .values rows _ => placeholdersOfRows rows
  | .phrase parts => placeholdersOfParts parts

def placeholdersOfRows : List (List Expr) → List String
  | [] => []
  | row :: rest => placeholdersOfExprs row ++ placeholdersOfRows rest

def Select.placeholders : Select → List String
  | ⟨projection, sources, views, selection, grouping⟩ =>
    placeholdersOfParts projection ++ placeholdersOfSources sources ++
      placeholdersOfParts views ++ placeholdersOfSelection selection ++
      placeholdersOfParts grouping

def placeholdersOfSelection : Option Expr → List String
  | none => []
  | some condition => condition.placeholders

def placeholdersOfSources : List Source → List String
  | [] => []
  | source :: rest => source.placeholders ++ placeholdersOfSources rest

def Source.placeholders : Source → List String
  | ⟨factor, joins⟩ => factor.placeholders ++ placeholdersOfJoins joins

def placeholdersOfJoins : List Join → List String
  | [] => []
  | join :: rest => join.placeholders ++ placeholdersOfJoins rest

def Join.placeholders : Join → List String
  | ⟨_, factor, condition⟩ => factor.placeholders ++ placeholdersOfParts condition

def Alias.placeholders : Alias → List String
  | ⟨_, columns⟩ => placeholdersOfParts columns

def placeholdersOfLabel : Option Alias → List String
  | none => []
  | some label => label.placeholders

def placeholdersOfArguments : Option (List Part) → List String
  | none => []
  | some arguments => placeholdersOfParts arguments

def Factor.placeholders : Factor → List String
  | .table _ label => placeholdersOfLabel label
  | .call _ arguments _ label closing =>
    placeholdersOfArguments arguments ++ placeholdersOfLabel label ++ placeholdersOfParts closing
  | .join inner label => inner.placeholders ++ placeholdersOfLabel label
  | .other parts label => placeholdersOfParts parts ++ placeholdersOfLabel label

def Statement.placeholders : Statement → List String
  | .query query => query.placeholders
  | .insert insertion => insertion.placeholders
  | .update change => change.placeholders
  | .delete deletion => deletion.placeholders
  | .other parts => placeholdersOfParts parts

def Target.placeholders : Target → List String
  | .table _ => []
  | .function call => call.placeholders

def placeholdersOfQuery : Option Query → List String
  | none => []
  | some query => query.placeholders

def Insert.placeholders : Insert → List String
  | ⟨_, target, _, _, partition, source, closing⟩ =>
    target.placeholders ++ placeholdersOfParts partition ++ placeholdersOfQuery source ++
      placeholdersOfParts closing

def placeholdersOfAssignments : List Assignment → List String
  | [] => []
  | assignment :: rest => assignment.placeholders ++ placeholdersOfAssignments rest

def Assignment.placeholders : Assignment → List String
  | ⟨_, value⟩ => value.placeholders

def placeholdersOfClause : Option (List Source) → List String
  | none => []
  | some sources => placeholdersOfSources sources

def Update.placeholders : Update → List String
  | ⟨_, target, assignments, sources, _, selection, closing⟩ =>
    target.placeholders ++ placeholdersOfAssignments assignments ++
      placeholdersOfClause sources ++ placeholdersOfSelection selection ++
      placeholdersOfParts closing

def Delete.placeholders : Delete → List String
  | ⟨_, _, sources, joined, selection, closing⟩ =>
    placeholdersOfSources sources ++ placeholdersOfClause joined ++
      placeholdersOfSelection selection ++ placeholdersOfParts closing

end

/-- Every ordinal parameter that occurs in a statement. -/
def Statement.params (statement : Statement) : ParamSet :=
  ParamSet.ofList (statement.placeholders.filterMap Param.ofText?)

end SqlBinding
