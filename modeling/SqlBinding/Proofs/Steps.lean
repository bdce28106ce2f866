import SqlBinding.Analysis
import SqlBinding.Proofs.Alike
import SqlBinding.Proofs.Tables

/-! A walk as a list of steps. The steps of a statement say in order what its walk reports, where it
meets a malformed name, and which parameter it binds to which column or reference. They hold the names
that are looked up, in canonical form, and no texts. Running them gives what the walk gives, so two
statements with the same steps cannot be told apart by their bindings, the kinds of their warnings or
their errors.
-/

namespace SqlBinding

/-- A column reference as far as it counts, in canonical names. -/
inductive Reference where
  | plain (column : String)
  | qualified (qualifier column : String)
deriving DecidableEq, Repr

/-- The name of the column itself. -/
def Reference.column : Reference → String
  | .plain column => column
  | .qualified _ column => column

def Reference.of? : Name → Option Reference
  | [] => none
  | [column] => some (.plain column.canonical)
  | qualifier :: column :: _ => some (.qualified qualifier.canonical column.canonical)

namespace Scope

/-- The relation whose column a reference names. -/
def relationOf (scope : Scope) : Reference → Relation
  | .plain _ => scope.unqualified
  | .qualified qualifier _ => (scope.get? qualifier).getD ⟨none, qualifier⟩

/-- The column a reference stands for, or a field of it. -/
def columnOf (scope : Scope) (reference : Reference) (accessor : Option JsonAccessor := none) :
    Column :=
  { relation := scope.relationOf reference, name := reference.column, accessor }

theorem column?_eq (scope : Scope) (parts : Name) :
    scope.column? parts = (Reference.of? parts).map fun reference => scope.columnOf reference := by
  match parts with
  | [] => rfl
  | [_] => rfl
  | _ :: _ :: _ => rfl

end Scope

inductive Step where
  | report (kind : Warning.Kind)
  /-- Stops at a malformed name. -/
  | fail (cause : Malformed)
  /-- Binds a parameter to a column that it is stored into. -/
  | store (param : Param) (column : Column)
  /-- Binds a parameter to what a reference stands for, or to a field of it. The declarations are those
  of the FROM clauses around the place, the outermost first. -/
  | compare (declarations : List (String × Relation)) (param : Param) (reference : Reference)
      (accessor : Option JsonAccessor)

namespace Step

/-- A step inside one more FROM clause. -/
def under (declarations : List (String × Relation)) : Step → Step
  | .compare others param reference accessor =>
    .compare (declarations ++ others) param reference accessor
  | step => step

def run (scope : Scope) : Step → Walk (List Binding)
  | .report kind => do
    Walk.warn kind ""
    return []
  | .fail cause => Walk.fail cause
  | .store param column => return [(param, column)]
  | .compare declarations param reference accessor =>
    return [(param, (scope.declare declarations).columnOf reference accessor)]

/-- The kind of syntax that a step reports, if it does. -/
def kind? : Step → Option Warning.Kind
  | .report kind => some kind
  | _ => none

/-- The malformed name at which a step stops, if it does. -/
def fault? : Step → Option Malformed
  | .fail cause => some cause
  | _ => none

@[simp] theorem kind?_under (declarations : List (String × Relation)) (step : Step) :
    (step.under declarations).kind? = step.kind? := by
  cases step <;> rfl

@[simp] theorem fault?_under (declarations : List (String × Relation)) (step : Step) :
    (step.under declarations).fault? = step.fault? := by
  cases step <;> rfl

/-- Runs steps in order and puts together what they bind. -/
def runAll (scope : Scope) (steps : List Step) : Walk (List Binding) :=
  Walk.gather (run scope) steps

end Step

/-- The steps of looking up a reference and of what is done with it. -/
def resolveSteps (parts : Name) (next : Reference → List Step) : List Step :=
  (if 2 < parts.length then [.report .columnReference] else []) ++
    match Reference.of? parts with
    | some reference => next reference
    | none => [.fail .emptyColumnRef]

def comparisonSteps : Operand → Operand → List Step
  | .column parts, .param param =>
    resolveSteps parts fun reference => [.compare [] param reference none]
  | .json parts accessor, .param param =>
    resolveSteps parts fun reference => [.compare [] param reference (some accessor)]
  | _, .column _ => []
  | _, .placeholder _ => [.report .placeholder]
  | _, _ => [.report .whereClause]

def itemSteps (reference : Reference) : Operand → List Step
  | .param param => [.compare [] param reference none]
  | .placeholder _ => [.report .placeholder]
  | _ => []

def listSteps : Operand → List Expr → List Step
  | .column parts, items =>
    resolveSteps parts fun reference => items.flatMap fun item => itemSteps reference (.of item)
  | _, _ => [.report .whereClause]

/-- The step of reading the name of a table. -/
def nameSteps (name : Name) : List Step :=
  if name = [] then [.fail (.emptyObjectName "")] else []

/-- The steps of a clause inside tables: the names of the tables are read first. -/
def clauseSteps (tables : List Table) (steps : List Step) : List Step :=
  tables.flatMap (fun table => nameSteps table.name) ++
    steps.map (Step.under (tables.filterMap Table.declaration?))

mutual

def Expr.steps : Expr → List Step
  | .nested inner => inner.steps
  | .logical _ left right => left.steps ++ right.steps
  | .negation operand => operand.steps
  | .binary _ left right =>
    match right.subquerySteps with
    | some steps => steps
    | none => comparisonSteps (.of left) (.of right)
  | .inList _ needle items => listSteps (.of needle) items
  | .isNull _ _ => []
  | .column _ | .literal _ | .subquery _ | .phrase _ => [.report .whereClause]

/-- The steps of an expression that is a subquery in parentheses. -/
def Expr.subquerySteps : Expr → Option (List Step)
  | .nested inner => inner.subquerySteps
  | .subquery query => some query.steps
  | _ => none

def Query.steps : Query → List Step
  | ⟨_, body, _⟩ => body.steps

def Body.steps : Body → List Step
  | .select block => block.steps
  | .query inner => inner.steps
  | .values _ _ | .phrase _ => [.report .selectBody]

def Select.steps : Select → List Step
  | ⟨_, sources, _, selection, _⟩ => clauseSteps (tablesOf sources) (selectionSteps selection)

def selectionSteps : Option Expr → List Step
  | none => []
  | some condition => condition.steps

end

namespace Insert

def cellSteps (relation : Relation) : Option Ident → Operand → List Step
  | some column, .param param => [.store param { relation, name := column.canonical }]
  | none, .param _ => [.report .columnTypeInSelectClause]
  | _, .placeholder _ => [.report .placeholder]
  | _, _ => []

def rowSteps (relation : Relation) : List Ident → List Expr → List Step
  | _, [] => []
  | columns, cell :: row =>
    cellSteps relation columns.head? (.of cell) ++ rowSteps relation columns.tail row

def sourceSteps (relation : Relation) (columns : List Ident) : Option Query → List Step
  | none => [.report .selectClause]
  | some source =>
    match singleRow? source, columns with
    | some row, first :: rest => rowSteps relation (first :: rest) row
    | _, _ => [.report .selectClause]

def steps (insertion : Insert) : List Step :=
  match insertion.target with
  | .table name =>
    nameSteps name ++
      sourceSteps ((Relation.ofName? name).getD .notFound) insertion.columns insertion.source
  | .function _ => [.report .statement]

end Insert

namespace Update

def assignmentSteps (relation : Relation) (assignment : Assignment) : List Step :=
  match assignment.target, Operand.of assignment.value with
  | .tuple _, _ => [.report .assignmentTarget]
  | .column name, .param param =>
    match name.getLast? with
    | some column => [.store param { relation, name := column.canonical }]
    | none => [.fail (.emptyObjectName "")]
  | .column _, .placeholder _ => [.report .placeholder]
  | .column _, _ => []

/-- The tables of the WHERE clause. -/
def scopeTables (change : Update) : List Table := tablesOf (change.target :: change.sources.getD [])

def conditionSteps (change : Update) : List Step :=
  match change.selection with
  | none => []
  | some condition => clauseSteps change.scopeTables condition.steps

def steps (change : Update) : List Step :=
  match change.table? with
  | none => [.report .statement]
  | some name =>
    nameSteps name ++
      change.assignments.flatMap (assignmentSteps ((Relation.ofName? name).getD .notFound)) ++
      change.conditionSteps

end Update

namespace Delete

/-- The tables of the WHERE clause. -/
def scopeTables (deletion : Delete) : List Table :=
  match deletion.sources with
  | [] => []
  | first :: _ => first.factor.tables

def steps (deletion : Delete) : List Step :=
  clauseSteps deletion.scopeTables (selectionSteps deletion.selection)

end Delete

def Statement.steps : Statement → List Step
  | .query inner => inner.steps
  | .insert insertion => insertion.steps
  | .update change => change.steps
  | .delete deletion => deletion.steps
  | .other _ => [.report .statement]

mutual

theorem Query.steps_core : ∀ query : Query, query.steps = query.core.steps
  | ⟨_, body, _⟩ => by
    rw [Query.steps, Query.core]
    exact body.steps_core

theorem Body.steps_core : ∀ body : Body, body.steps = body.core.steps
  | .query inner => by
    rw [Body.steps, Body.core]
    exact inner.steps_core
  | .select _ => by rw [Body.core]
  | .values _ _ => by rw [Body.core]
  | .phrase _ => by rw [Body.core]

end

theorem Select.steps_eq (block : Select) :
    block.steps = clauseSteps (tablesOf block.sources) (selectionSteps block.selection) := by
  cases block
  rw [Select.steps]

theorem steps_of_subquery {right : Expr} (operand : right.bare = .subquery query) :
    (Expr.binary op left right).steps = query.core.steps := by
  have entered : right.subquerySteps = some query.steps := by
    fun_induction Expr.bare right with
    | case1 inner ih =>
      rw [Expr.subquerySteps]
      exact ih operand
    | case2 expr plain =>
      subst operand
      rw [Expr.subquerySteps]
  rw [Expr.steps, entered]
  exact query.steps_core

theorem steps_of_comparison {right : Expr} (apart : ∀ query, right.bare ≠ .subquery query) :
    (Expr.binary op left right).steps = comparisonSteps (.of left) (.of right) := by
  have none : right.subquerySteps = none := by
    fun_induction Expr.bare right with
    | case1 inner ih =>
      rw [Expr.subquerySteps]
      exact ih apart
    | case2 expr plain =>
      cases expr with
      | nested inner => exact absurd rfl (plain inner)
      | subquery query => exact absurd rfl (apart query)
      | _ => rfl
  rw [Expr.steps, none]

/-- A row of values is stored and reported, and neither fails nor looks up a reference. -/
theorem Insert.mem_sourceSteps {relation : Relation} {columns : List Ident} {source : Option Query}
    (member : step ∈ sourceSteps relation columns source) :
    (∃ kind, step = .report kind) ∨ ∃ param column, step = .store param column := by
  have cell {column : Option Ident} {operand : Operand}
      (member : step ∈ cellSteps relation column operand) :
      (∃ kind, step = .report kind) ∨ ∃ param column, step = .store param column := by
    fun_cases cellSteps relation column operand <;> simp_all [cellSteps]
  have row {columns : List Ident} {cells : List Expr}
      (member : step ∈ rowSteps relation columns cells) :
      (∃ kind, step = .report kind) ∨ ∃ param column, step = .store param column := by
    fun_induction rowSteps relation columns cells with
    | case1 => cases member
    | case2 columns first rest ih => exact (List.mem_append.mp member).elim cell ih
  unfold sourceSteps at member
  split at member
  · exact .inl ⟨_, List.mem_singleton.mp member⟩
  · split at member
    · exact row member
    · exact .inl ⟨_, List.mem_singleton.mp member⟩

/-- An assignment looks up no reference. -/
theorem Update.compare_notMem_assignmentSteps (relation : Relation) (assignment : Assignment) :
    .compare declarations param reference accessor ∉ assignmentSteps relation assignment := by
  fun_cases assignmentSteps relation assignment <;> simp

end SqlBinding
