import SqlBinding.Column

namespace SqlBinding

/-- Which part of a statement was not understood. -/
inductive Warning.Kind where
  | statement
  | whereClause
  | selectClause
  | columnTypeInSelectClause
  | columnReference
  | assignmentTarget
  | placeholder
  | selectBody
deriving DecidableEq, Repr

def Warning.Kind.describe : Warning.Kind → String
  | .statement => "statement"
  | .whereClause => "where clause"
  | .selectClause => "select clause"
  | .columnTypeInSelectClause => "column type in select clause"
  | .columnReference => "column reference"
  | .assignmentTarget => "assignment target"
  | .placeholder => "placeholder"
  | .selectBody => "select body"

/-- What was not understood, with its text. -/
structure Warning where
  kind : Warning.Kind
  node : String
deriving DecidableEq, Repr

def Warning.message (warning : Warning) : String :=
  warning.kind.describe ++ " not supported: " ++ warning.node

inductive Event where
  | unreadable (cursor : Nat) (message : String)
  | furtherStatements (statements : Nat)
  | analyzing (statement : String)
  | analyzed (params warnings placeholders : Nat)
  | unsupported (warning : Warning)
  | relationInScope (name : String) (relation : Relation)
  | noRelation (item : String)
  | select (relations : Nat) (correlated : Bool)
  | insert (relation : Relation) (columns : Nat)
  | update (relation : Relation) (assignments : Nat)
  | delete (relations : Nat)
  | otherStatement
  | subquery
deriving DecidableEq, Repr

namespace Event

/-- The value of an event's field. -/
inductive Value where
  | text (value : String)
  | count (value : Nat)
  | flag (value : Bool)
deriving DecidableEq, Repr

/-- How much detail a listener must want to hear of an event. -/
inductive Level where
  | debug
  | trace
deriving DecidableEq, Repr

def level : Event → Level
  | relationInScope .. | noRelation .. | subquery => .trace
  | _ => .debug

/-- The subject under which an event is announced. -/
def target : Event → String
  | unreadable .. => "sql_param_mapper::parser"
  | furtherStatements .. | analyzing .. | analyzed .. | unsupported .. =>
    "sql_param_mapper::analyzer"
  | relationInScope .. | noRelation .. => "sql_param_mapper::scope"
  | select .. | insert .. | update .. | delete .. | otherStatement => "sql_param_mapper::statement"
  | subquery => "sql_param_mapper::predicate"

def message : Event → String
  | unreadable .. => "parse failed"
  | furtherStatements .. => "only the first statement is analyzed"
  | analyzing .. => "analyzing"
  | analyzed .. => "analyzed"
  | unsupported .. => "not supported"
  | relationInScope .. => "bringing relation into scope"
  | noRelation .. => "FROM item contributes no relation"
  | select .. => "mapping SELECT"
  | insert .. => "mapping INSERT"
  | update .. => "mapping UPDATE"
  | delete .. => "mapping DELETE"
  | otherStatement => "statement kind is not analyzed"
  | subquery => "mapping correlated subquery"

def fields : Event → List (String × Value)
  | unreadable cursor message => [("cursor_position", .count cursor), ("error", .text message)]
  | furtherStatements statements => [("statements", .count statements)]
  | analyzing statement => [("statement", .text statement)]
  | analyzed params warnings placeholders =>
    [("params", .count params), ("warnings", .count warnings),
      ("placeholders", .count placeholders)]
  | unsupported warning => [("kind", .text warning.kind.describe), ("node", .text warning.node)]
  | relationInScope name relation => [("alias", .text name), ("relation", .text relation.render)]
  | noRelation item => [("from_item", .text item)]
  | select relations correlated =>
    [("relations", .count relations), ("correlated", .flag correlated)]
  | insert relation columns =>
    [("relation", .text relation.render), ("columns", .count columns)]
  | update relation assignments =>
    [("relation", .text relation.render), ("assignments", .count assignments)]
  | delete relations => [("relations", .count relations)]
  | otherStatement | subquery => []

end Event
end SqlBinding
