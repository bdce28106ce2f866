import SqlBinding.Predicate
import SqlBinding.Syntax.Placeholders

namespace SqlBinding

namespace Insert

/-- The only row of a source that is a VALUES list with one row. -/
def singleRow? (source : Query) : Option (List Expr) :=
  match source.body with
  | .values [row] _ => some row
  | _ => none

/-- What a cell of a row binds, given the column at its position. -/
def cellBindings (relation : Relation) (target : Option Ident) (cell : Expr) :
    Walk (List Binding) :=
  match Operand.of cell, target with
  | .param param, some column => return [(param, { relation, name := column.canonical })]
  | .param _, none => do
    Walk.warn .columnTypeInSelectClause cell.render
    return []
  | .placeholder text, _ => do
    Walk.warn .placeholder text
    return []
  | _, _ => return []

/-- Binds the parameters of a row to the columns at their positions. -/
def rowBindings (relation : Relation) : List Ident → List Expr → Walk (List Binding)
  | _, [] => return []
  | columns, cell :: row => do
    let found ← cellBindings relation columns.head? cell
    let others ← rowBindings relation columns.tail row
    return found ++ others

/-- The bindings of what is stored into a relation. -/
def sourceBindings (relation : Relation) (columns : List Ident) :
    Option Query → Walk (List Binding)
  | none => do
    Walk.warn .selectClause "DEFAULT VALUES"
    return []
  | some source =>
    match singleRow? source, columns with
    | some row, first :: rest => rowBindings relation (first :: rest) row
    | _, _ => do
      Walk.warn .selectClause source.render
      return []

def bindings (insertion : Insert) : Walk (List Binding) :=
  match insertion.target with
  | .table name => do
    let relation ← Walk.require (.emptyObjectName name.render) (Relation.ofName? name)
    Walk.emit (.insert relation insertion.columns.length)
    sourceBindings relation insertion.columns insertion.source
  | .function call => do
    Walk.warn .statement call.render
    return []

end Insert

namespace Update

/-- The binding of an assignment whose value is a parameter. -/
def assignmentBindings (relation : Relation) (assignment : Assignment) : Walk (List Binding) :=
  match assignment.target with
  | .tuple names => do
    Walk.warn .assignmentTarget (AssignmentTarget.render (.tuple names))
    return []
  | .column name =>
    match Operand.of assignment.value with
    | .param param => do
      let column ← Walk.require (.emptyObjectName name.render) name.getLast?
      return [(param, { relation, name := column.canonical })]
    | .placeholder text => do
      Walk.warn .placeholder text
      return []
    | _ => return []

/-- The scope of the WHERE clause: the target with its joins, then the FROM clause on top. -/
def scope (change : Update) : Walk Scope := do
  let target ← Scope.ofSources [change.target]
  match change.sources with
  | none => return target
  | some sources => do
    let others ← Scope.ofSources sources
    return target.merge others

/-- The name of the table that is updated, if it is one. -/
def table? (change : Update) : Option Name :=
  match change.target.factor with
  | .table name _ | .call name _ _ _ _ => some name
  | _ => none

def bindings (change : Update) : Walk (List Binding) :=
  match change.table? with
  | none => do
    Walk.warn .statement change.target.render
    return []
  | some name => do
    let relation ← Walk.require (.emptyObjectName name.render) (Relation.ofName? name)
    Walk.emit (.update relation change.assignments.length)
    let stored ← Walk.gather (assignmentBindings relation) change.assignments
    match change.selection with
    | none => return stored
    | some condition => do
      let scope ← change.scope
      let compared ← condition.bindings scope
      return stored ++ compared

end Update

namespace Delete

/-- The scope of the WHERE clause: the first item's factor only. -/
def scope (deletion : Delete) : Walk Scope :=
  match deletion.sources with
  | [] => return Scope.empty
  | first :: _ => Scope.ofFactor first.factor

def bindings (deletion : Delete) : Walk (List Binding) := do
  let scope ← deletion.scope
  Walk.emit (.delete scope.size)
  selectionBindings deletion.selection scope

end Delete

def Statement.bindings : Statement → Walk (List Binding)
  | .query inner => inner.bindings none
  | .insert insertion => insertion.bindings
  | .update change => change.bindings
  | .delete deletion => deletion.bindings
  | .other parts => do
    Walk.emit .otherStatement
    Walk.warn .statement (renderParts parts)
    return []

/-- The columns of the parameters that are bound, the warnings, and all parameters that occur. -/
structure Analysis where
  params : ParamMap Column
  warnings : List Warning
  placeholders : ParamSet

namespace Analysis

/-- The parameters that occur and are not bound. -/
def unbound (analysis : Analysis) : List Param :=
  analysis.placeholders.toList.filter fun param => !analysis.params.contains param

/-- The analysis of a statement whose walk found the given bindings. -/
def ofBindings (statement : Statement) (walk : Walk (List Binding)) (bindings : List Binding) :
    Analysis :=
  ⟨ParamMap.ofList bindings, walk.warnings, statement.params⟩

/-- Announces the sizes of an analysis. -/
def summary (analysis : Analysis) : Event :=
  .analyzed analysis.params.size analysis.warnings.length analysis.placeholders.size

end Analysis

/-- Analyzes a statement. The last binding of a parameter is the one that counts. -/
def Statement.analyze (statement : Statement) : Walk Analysis := do
  Walk.emit (.analyzing statement.render)
  let walk := statement.bindings
  let bindings ← walk
  let analysis := Analysis.ofBindings statement walk bindings
  Walk.emit analysis.summary
  return analysis

end SqlBinding
