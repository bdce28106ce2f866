import SqlBinding.Proofs.StatementBindings
import SqlBinding.Proofs.Steps

namespace SqlBinding
open Walk (Alike)

namespace Step

@[simp] theorem runAll_nil (scope : Scope) : runAll scope [] = pure [] := rfl

theorem runAll_cons (scope : Scope) (step : Step) (rest : List Step) :
    runAll scope (step :: rest) = (do
      let found ← step.run scope
      let more ← runAll scope rest
      return found ++ more) := rfl

theorem runAll_append (scope : Scope) (steps others : List Step) :
    runAll scope (steps ++ others) = (do
      let found ← runAll scope steps
      let more ← runAll scope others
      return found ++ more) :=
  Walk.gather_append (run scope) steps others

theorem runAll_report (scope : Scope) (kind : Warning.Kind) (node : String) (steps : List Step) :
    Alike (do Walk.warn kind node; runAll scope steps) (runAll scope (.report kind :: steps)) := by
  rw [runAll_cons, run, Walk.bind_assoc]
  refine (Alike.warn kind node "").bind fun _ => ?_
  rw [Walk.pure_bind]
  exact (congrArg (Alike _) (Walk.bind_pure _)).mpr (.refl _)

theorem run_under (scope : Scope) (declarations : List (String × Relation)) (step : Step) :
    (step.under declarations).run scope = step.run (scope.declare declarations) := by
  cases step with
  | compare others param reference accessor => simp only [under, run, Scope.declare_append]
  | _ => rfl

/-- Steps inside a FROM clause run in the scope of that clause. -/
theorem runAll_under (scope : Scope) (declarations : List (String × Relation)) (steps : List Step) :
    runAll scope (steps.map (under declarations)) = runAll (scope.declare declarations) steps := by
  induction steps with
  | nil => rfl
  | cons first rest ih => rw [List.map_cons, runAll_cons, runAll_cons, run_under, ih]

theorem kinds_run (scope : Scope) (step : Step) : (step.run scope).kinds = step.kind?.toList := by
  cases step <;> rfl

theorem run_of_fault {step : Step} (found : step.fault? = some cause) (scope : Scope) :
    step.run scope = Walk.fail cause := by
  cases step with
  | fail actual =>
    obtain rfl := Option.some.inj found
    rfl
  | _ => cases found

theorem run_ok {step : Step} (sound : step.fault? = none) (scope : Scope) :
    ∃ found, (step.run scope).outcome = .ok found := by
  cases step with
  | fail cause => cases sound
  | report kind => exact ⟨_, rfl⟩
  | store param column => exact ⟨_, rfl⟩
  | compare declarations param reference accessor => exact ⟨_, rfl⟩

/-- A run fails with the first fault among its steps, and only then. -/
theorem runAll_error_iff (scope : Scope) (steps : List Step) (cause : Malformed) :
    (runAll scope steps).outcome = .error cause ↔ (steps.filterMap fault?).head? = some cause := by
  induction steps with
  | nil => simp
  | cons first rest ih =>
    rw [runAll_cons]
    cases faulty : first.fault? with
    | some earlier =>
      rw [run_of_fault faulty, List.filterMap_cons_some faulty, List.head?_cons, Walk.fail_bind]
      exact ⟨fun same => congrArg some (Except.error.inj same),
        fun same => congrArg Except.error (Option.some.inj same)⟩
    | none =>
      obtain ⟨found, done⟩ := run_ok faulty scope
      rw [List.filterMap_cons_none faulty, ← ih, Walk.outcome_bind done, Walk.bind_error_iff]
      simp

theorem runAll_ok_iff (scope : Scope) (steps : List Step) :
    (∃ found, (runAll scope steps).outcome = .ok found) ↔ steps.filterMap fault? = [] := by
  have failed (cause : Malformed) := runAll_error_iff scope steps cause
  cases outcome : (runAll scope steps).outcome with
  | ok found =>
    have none : (steps.filterMap fault?).head? = none := by
      rw [Option.eq_none_iff_forall_ne_some]
      intro cause head
      cases outcome.symm.trans ((failed cause).mpr head)
    exact iff_of_true ⟨found, rfl⟩ (List.head?_eq_none_iff.mp none)
  | error cause =>
    refine iff_of_false (fun ⟨found, same⟩ => by cases same) fun none => ?_
    have head := (failed cause).mp outcome
    rw [none] at head
    cases head

/-- A run without faults reports the kinds of its steps. -/
theorem kinds_runAll {scope : Scope} {steps : List Step}
    (walked : (runAll scope steps).outcome = .ok found) :
    (runAll scope steps).kinds = steps.filterMap kind? := by
  induction steps generalizing found with
  | nil => rfl
  | cons first rest ih =>
    rw [runAll_cons] at walked ⊢
    obtain ⟨own, done, walked⟩ := Walk.bind_ok_iff.mp walked
    obtain ⟨more, others, -⟩ := Walk.bind_ok_iff.mp walked
    rw [Walk.kinds_bind done, Walk.kinds_bind others, kinds_run, ih others, Walk.kinds_pure,
      List.append_nil, List.filterMap_cons]
    cases first.kind? <;> rfl

end Step

/-- A reference is looked up before anything is done with it. -/
theorem resolve_alike {scope : Scope} {next : Column → Walk (List Binding)}
    {steps : Reference → List Step} (parts : Name)
    (same : ∀ reference,
      Alike (next (scope.columnOf reference)) (Step.runAll scope (steps reference))) :
    Alike (scope.resolve parts >>= next) (Step.runAll scope (resolveSteps parts steps)) := by
  unfold Scope.resolve resolveSteps
  rw [Scope.column?_eq]
  cases Reference.of? parts with
  | none =>
    have missing : Alike (Walk.require .emptyColumnRef none >>= next)
        (Step.runAll scope [.fail .emptyColumnRef]) := .refl _
    simp only
    split
    · rw [Walk.bind_assoc]
      exact ((Alike.refl _).bind fun _ => missing).trans (Step.runAll_report scope _ _ _)
    · exact missing
  | some reference =>
    simp only
    split
    · rw [Walk.bind_assoc]
      exact ((Alike.refl _).bind fun _ => same reference).trans (Step.runAll_report scope _ _ _)
    · exact same reference

theorem comparison_alike (scope : Scope) (text : String) (left right : Operand) :
    Alike (comparisonBindings scope text left right)
      (Step.runAll scope (comparisonSteps left right)) := by
  cases right with
  | param ordinal =>
    cases left with
    | column parts => exact resolve_alike parts fun reference => .refl _
    | json parts accessor => exact resolve_alike parts fun reference => .refl _
    | _ => exact ⟨rfl, rfl⟩
  | column parts => cases left <;> exact .refl _
  | _ => cases left <;> exact ⟨rfl, rfl⟩

theorem list_alike (scope : Scope) (reference : Reference) (items : List Expr) :
    Alike (listBindings (scope.columnOf reference) items)
      (Step.runAll scope (items.flatMap fun item => itemSteps reference (.of item))) := by
  unfold listBindings
  induction items with
  | nil => exact .refl _
  | cons first rest ih =>
    rw [List.flatMap_cons, Step.runAll_append, Walk.gather]
    refine Alike.bind ?_ fun found => ih.bind fun more => .refl _
    cases Operand.of first with
    | param ordinal => exact .refl _
    | placeholder text => exact ⟨rfl, rfl⟩
    | _ => exact .refl _

def declareTables (tables : List Table) : Walk (List (String × Relation)) :=
  Walk.gather (fun table => declareTable table.name table.label) tables

private theorem declareTables_append (tables others : List Table) :
    declareTables (tables ++ others) = (do
      let first ← declareTables tables
      let second ← declareTables others
      return first ++ second) :=
  Walk.gather_append _ tables others

mutual

theorem Factor.declarations_alike : ∀ factor : Factor,
    Alike factor.declarations (declareTables factor.tables)
  | .table name label => by
    rw [Factor.declarations, Factor.tables, declareTables, Walk.gather_singleton]
    exact .refl _
  | .call name _ _ label _ => by
    rw [Factor.declarations, Factor.tables, declareTables, Walk.gather_singleton]
    exact .refl _
  | .join inner _ => by
    rw [Factor.declarations, Factor.tables]
    exact inner.declarations_alike
  | .other parts label => by
    rw [Factor.declarations, Factor.tables]
    exact .emit_bind _ _

theorem Source.declarations_alike : ∀ source : Source,
    Alike source.declarations (declareTables source.tables)
  | ⟨factor, joins⟩ => by
    rw [Source.declarations, Source.tables, declareTables_append]
    exact factor.declarations_alike.bind fun first =>
      (declarationsOfJoins_alike joins).bind fun others => .refl _

theorem declarationsOfJoins_alike : ∀ joins : List Join,
    Alike (declarationsOfJoins joins) (declareTables (tablesOfJoins joins))
  | [] => by
    rw [declarationsOfJoins, tablesOfJoins]
    exact .refl _
  | ⟨_, factor, _⟩ :: rest => by
    rw [declarationsOfJoins, tablesOfJoins, declareTables_append]
    exact factor.declarations_alike.bind fun first =>
      (declarationsOfJoins_alike rest).bind fun others => .refl _

end

theorem sources_alike (sources : List Source) :
    Alike (Walk.gather Source.declarations sources) (declareTables (tablesOf sources)) := by
  induction sources with
  | nil => exact .refl _
  | cons first rest ih =>
    rw [tablesOf, List.flatMap_cons, declareTables_append]
    exact first.declarations_alike.bind fun own => ih.bind fun others => .refl _

private theorem declareTable_alike (table : Table) (declared : table.declaration? = some declaration) :
    Alike (declareTable table.name table.label) (pure [declaration]) := by
  obtain ⟨relation, found, rfl⟩ := Option.map_eq_some_iff.mp declared
  rw [declareTable, show Relation.ofName? table.name = some relation from found, Walk.require,
    Walk.pure_bind]
  exact .emit_bind _ _

/-- Behind the declarations of tables the walk goes on only if each of them has a name. -/
theorem declareTables_alike {scope : Scope} {next : List (String × Relation) → Walk (List Binding)}
    {steps : List Step} (tables : List Table)
    (same : Alike (next (tables.filterMap Table.declaration?)) (Step.runAll scope steps)) :
    Alike (declareTables tables >>= next)
      (Step.runAll scope (tables.flatMap (fun table => nameSteps table.name) ++ steps)) := by
  induction tables generalizing next with
  | nil => exact same
  | cons first rest ih =>
    rw [declareTables, Walk.gather, Walk.bind_assoc, List.flatMap_cons, nameSteps]
    split
    case isTrue unnamed =>
      rw [declareTable, unnamed]
      exact .refl _
    case isFalse named =>
      obtain ⟨relation, found⟩ := first.exists_relation named
      have declared := first.declaration?_eq found
      rw [List.filterMap_cons_some declared] at same
      refine ((declareTable_alike first declared).bind fun _ => .refl _).trans ?_
      rw [Walk.pure_bind, Walk.bind_assoc]
      exact ih same

/-- A scope in which tables are declared. -/
def Scope.withTables (scope : Scope) (tables : List Table) : Walk Scope := do
  let declarations ← declareTables tables
  return scope.declare declarations

/-- If each table has a name, the scope holds what the tables declare. -/
theorem Scope.withTables_ok {scope inner : Scope} {tables : List Table}
    (entered : (scope.withTables tables).outcome = .ok inner) :
    inner = scope.declare (tables.filterMap Table.declaration?) := by
  have found : ∀ {found}, (declareTables tables).outcome = .ok found →
      found = tables.filterMap Table.declaration? := by
    clear entered
    induction tables with
    | nil => exact fun walked => (Except.ok.inj walked).symm
    | cons first rest ih =>
      intro found walked
      obtain ⟨own, others, firstDone, restDone, rfl⟩ := Walk.gather_cons_ok_iff.mp walked
      rw [ih restDone]
      cases declared : first.declaration? with
      | none =>
        have missing : Relation.ofName? first.name = none := Option.map_eq_none_iff.mp declared
        rw [declareTable, missing] at firstDone
        cases firstDone
      | some declaration =>
        rw [(declareTable_alike first declared).outcome] at firstDone
        rw [List.filterMap_cons_some declared, ← Except.ok.inj firstDone]
        rfl
  obtain ⟨declarations, declared, done⟩ := Walk.bind_ok_iff.mp entered
  rw [← Except.ok.inj done, found declared]

/-- A table without a name cannot be declared. -/
theorem named_of_declareTables_ok {tables : List Table}
    (declared : (declareTables tables).outcome = .ok found) : Named tables := by
  induction tables generalizing found with
  | nil => exact List.forall_mem_nil _
  | cons first rest ih =>
    obtain ⟨own, others, firstDone, restDone, -⟩ := Walk.gather_cons_ok_iff.mp declared
    refine List.forall_mem_cons.mpr ⟨?_, ih restDone⟩
    intro unnamed
    rw [declareTable, unnamed] at firstDone
    cases firstDone

/-- Tables by themselves make a scope of their keys. -/
theorem Scope.exists_get?_iff_of_withTables {scope : Scope} {tables : List Table}
    (entered : (Scope.empty.withTables tables).outcome = .ok scope) (key : String) :
    (∃ relation, scope.get? key = some relation) ↔ ∃ table ∈ tables, table.key = key := by
  obtain ⟨declarations, declared, -⟩ := Walk.bind_ok_iff.mp entered
  have named : Named tables := named_of_declareTables_ok declared
  rw [Scope.withTables_ok entered]
  simp only [Scope.get?_declare, Scope.get?_empty, Option.or_none]
  rw [exists_valueOf?_iff]
  simp only [List.mem_reverse]
  constructor
  · rintro ⟨relation, member⟩
    obtain ⟨table, listed, declared⟩ := List.mem_filterMap.mp member
    obtain ⟨_, -, same⟩ := Option.map_eq_some_iff.mp declared
    exact ⟨table, listed, congrArg Prod.fst same⟩
  · rintro ⟨table, listed, rfl⟩
    obtain ⟨relation, found⟩ := table.exists_relation (named table listed)
    exact ⟨relation, List.mem_filterMap.mpr ⟨table, listed, table.declaration?_eq found⟩⟩

theorem ofSources_alike (sources : List Source) :
    Alike (Scope.ofSources sources) (Scope.empty.withTables (tablesOf sources)) :=
  (sources_alike sources).bind fun _ => .refl _

theorem nested_alike (parent : Option Scope) (sources : List Source) :
    Alike (Scope.nested parent sources) ((parent.getD .empty).withTables (tablesOf sources)) := by
  refine ((ofSources_alike sources).bind fun _ => .refl _).trans ?_
  simp only [Scope.withTables, Walk.bind_assoc, Walk.pure_bind, Scope.merge_declare]
  exact .refl _

/-- A clause in a scope of its own: the names of its tables are read, then it is walked. -/
theorem clause_alike {scope : Scope} {tables : List Table} {entered : Walk Scope} {steps : List Step}
    (next : Scope → Walk (List Binding)) (built : Alike entered (scope.withTables tables))
    (same : ∀ inner, Alike (next inner) (Step.runAll inner steps)) :
    Alike (entered >>= next) (Step.runAll scope (clauseSteps tables steps)) := by
  refine (built.bind fun _ => .refl _).trans ?_
  rw [Scope.withTables, Walk.bind_assoc]
  refine declareTables_alike tables ?_
  rw [Step.runAll_under, Walk.pure_bind]
  exact same _

mutual

/-- The walk of a predicate is like the run of its steps. -/
theorem Expr.bindings_alike : ∀ (expr : Expr) (scope : Scope),
    Alike (expr.bindings scope) (Step.runAll scope expr.steps)
  | .nested inner, scope => by
    rw [Expr.bindings, Expr.steps]
    exact inner.bindings_alike scope
  | .logical _ left right, scope => by
    rw [Expr.bindings, Expr.steps, Step.runAll_append]
    exact (left.bindings_alike scope).bind fun first =>
      (right.bindings_alike scope).bind fun second => .refl _
  | .negation operand, scope => by
    rw [Expr.bindings, Expr.steps]
    exact operand.bindings_alike scope
  | .binary op left right, scope => by
    rw [Expr.bindings, Expr.steps]
    rcases right.subqueryBindings_alike scope with ⟨walk, steps, walked, listed, same⟩ | ⟨none, silent⟩
    · rw [walked, listed]
      exact (Alike.emit_bind _ _).trans same
    · rw [none, silent]
      exact comparison_alike scope _ _ _
  | .inList negated needle items, scope => by
    rw [Expr.bindings, Expr.steps]
    cases Operand.of needle with
    | column parts => exact resolve_alike parts fun reference => list_alike scope reference items
    | _ => exact ⟨rfl, rfl⟩
  | .isNull _ _, scope => by
    rw [Expr.bindings, Expr.steps]
    exact .refl _
  | .column _, scope | .literal _, scope | .subquery _, scope | .phrase _, scope => by
    rw [Expr.bindings, Expr.steps]
    exact ⟨rfl, rfl⟩

theorem Expr.subqueryBindings_alike : ∀ (expr : Expr) (scope : Scope),
    (∃ walk steps, expr.subqueryBindings scope = some walk ∧ expr.subquerySteps = some steps ∧
      Alike walk (Step.runAll scope steps)) ∨
    expr.subqueryBindings scope = none ∧ expr.subquerySteps = none
  | .nested inner, scope => by
    rw [Expr.subqueryBindings, Expr.subquerySteps]
    exact inner.subqueryBindings_alike scope
  | .subquery query, scope => by
    rw [Expr.subqueryBindings, Expr.subquerySteps]
    exact .inl ⟨_, _, rfl, rfl, query.bindings_alike (some scope)⟩
  | .column _, _ | .literal _, _ | .logical _ _ _, _ | .negation _, _ | .binary _ _ _, _
  | .inList _ _ _, _ | .isNull _ _, _ | .phrase _, _ => .inr ⟨rfl, rfl⟩

theorem Query.bindings_alike : ∀ (query : Query) (parent : Option Scope),
    Alike (query.bindings parent) (Step.runAll (parent.getD .empty) query.steps)
  | ⟨_, body, _⟩, parent => by
    rw [Query.bindings, Query.steps]
    exact body.bindings_alike parent

theorem Body.bindings_alike : ∀ (body : Body) (parent : Option Scope),
    Alike (body.bindings parent) (Step.runAll (parent.getD .empty) body.steps)
  | .select block, parent => by
    rw [Body.bindings, Body.steps]
    exact block.bindings_alike parent
  | .query inner, parent => by
    rw [Body.bindings, Body.steps]
    exact inner.bindings_alike parent
  | .values _ _, _ | .phrase _, _ => by
    rw [Body.bindings, Body.steps]
    exact ⟨rfl, rfl⟩

theorem Select.bindings_alike : ∀ (block : Select) (parent : Option Scope),
    Alike (block.bindings parent) (Step.runAll (parent.getD .empty) block.steps)
  | ⟨_, sources, _, selection, _⟩, parent => by
    rw [Select.bindings, Select.steps]
    refine clause_alike _ (nested_alike parent sources) fun inner => ?_
    exact (Alike.emit_bind _ _).trans (selectionBindings_alike selection inner)

theorem selectionBindings_alike : ∀ (selection : Option Expr) (scope : Scope),
    Alike (selectionBindings selection scope) (Step.runAll scope (selectionSteps selection))
  | none, scope => by
    rw [selectionBindings, selectionSteps]
    exact .refl _
  | some condition, scope => by
    rw [selectionBindings, selectionSteps]
    exact condition.bindings_alike scope

end

private theorem nameSteps_of_relation (found : Relation.ofName? name = some relation) :
    nameSteps name = [] := by
  refine if_neg fun unnamed => ?_
  cases unnamed ▸ found

/-- Behind the name of a table the walk goes on only if it is one. -/
theorem require_alike {next : Relation → Walk (List Binding)} {scope : Scope} (name : Name)
    (steps : Relation → List Step)
    (same : ∀ relation, Alike (next relation) (Step.runAll scope (steps relation))) :
    Alike (Walk.require (.emptyObjectName name.render) (Relation.ofName? name) >>= next)
      (Step.runAll scope (nameSteps name ++ steps ((Relation.ofName? name).getD .notFound))) := by
  by_cases named : name = []
  · subst named
    exact .refl _
  · obtain ⟨relation, found⟩ := Table.exists_relation ⟨name, none⟩ named
    have known : Relation.ofName? name = some relation := found
    rw [nameSteps_of_relation known, known]
    exact same relation

namespace Insert

theorem cell_alike (scope : Scope) (relation : Relation) (target : Option Ident) (cell : Expr) :
    Alike (cellBindings relation target cell)
      (Step.runAll scope (cellSteps relation target (.of cell))) := by
  unfold cellBindings
  cases Operand.of cell with
  | param ordinal =>
    cases target with
    | some column => exact .refl _
    | none => exact ⟨rfl, rfl⟩
  | placeholder text => cases target <;> exact ⟨rfl, rfl⟩
  | _ => cases target <;> exact .refl _

theorem row_alike (scope : Scope) (relation : Relation) (columns : List Ident) (row : List Expr) :
    Alike (rowBindings relation columns row)
      (Step.runAll scope (rowSteps relation columns row)) := by
  induction row generalizing columns with
  | nil =>
    rw [rowBindings, rowSteps]
    exact .refl _
  | cons cell row ih =>
    rw [rowBindings, rowSteps, Step.runAll_append]
    exact (cell_alike scope relation columns.head? cell).bind fun found =>
      (ih columns.tail).bind fun others => .refl _

theorem source_alike (scope : Scope) (relation : Relation) (columns : List Ident)
    (source : Option Query) :
    Alike (sourceBindings relation columns source)
      (Step.runAll scope (sourceSteps relation columns source)) := by
  cases source with
  | none => exact ⟨rfl, rfl⟩
  | some source =>
    simp only [sourceBindings, sourceSteps]
    cases singleRow? source with
    | none => exact ⟨rfl, rfl⟩
    | some row =>
      cases columns with
      | nil => exact ⟨rfl, rfl⟩
      | cons first rest => exact row_alike scope relation (first :: rest) row

theorem bindings_alike (insertion : Insert) :
    Alike insertion.bindings (Step.runAll .empty insertion.steps) := by
  unfold bindings steps
  cases insertion.target with
  | table name =>
    refine require_alike name (sourceSteps · insertion.columns insertion.source) fun relation => ?_
    exact (Alike.emit_bind _ _).trans (source_alike .empty relation _ _)
  | function call => exact ⟨rfl, rfl⟩

end Insert

namespace Update

theorem assignment_alike (scope : Scope) (relation : Relation) (assignment : Assignment) :
    Alike (assignmentBindings relation assignment)
      (Step.runAll scope (assignmentSteps relation assignment)) := by
  unfold assignmentBindings assignmentSteps
  cases assignment.target with
  | tuple names => exact ⟨rfl, rfl⟩
  | column name =>
    cases Operand.of assignment.value with
    | param ordinal =>
      simp only
      cases last : name.getLast? with
      | some column => exact .refl _
      | none =>
        obtain rfl := List.getLast?_eq_none_iff.mp last
        exact .refl _
    | placeholder text => exact ⟨rfl, rfl⟩
    | _ => exact .refl _

theorem assignments_alike (scope : Scope) (relation : Relation) (assignments : List Assignment) :
    Alike (Walk.gather (assignmentBindings relation) assignments)
      (Step.runAll scope (assignments.flatMap (assignmentSteps relation))) := by
  induction assignments with
  | nil => exact .refl _
  | cons first rest ih =>
    rw [List.flatMap_cons, Step.runAll_append]
    exact (assignment_alike scope relation first).bind fun found => ih.bind fun more => .refl _

/-- The scope of the WHERE clause is that of one FROM clause with all its tables. -/
theorem scope_alike (change : Update) :
    Alike change.scope (Scope.empty.withTables change.scopeTables) := by
  unfold scope scopeTables
  cases change.sources with
  | none =>
    refine ((ofSources_alike [change.target]).bind fun _ => .refl _).trans ?_
    rw [Walk.bind_pure]
    exact .refl _
  | some sources =>
    have both : tablesOf (change.target :: sources) =
        tablesOf [change.target] ++ tablesOf sources := by
      simp [tablesOf]
    refine ((ofSources_alike [change.target]).bind fun target =>
      (ofSources_alike sources).bind fun others => .refl _).trans ?_
    simp only [Option.getD_some, both, Scope.withTables, declareTables_append, Walk.bind_assoc,
      Walk.pure_bind, Scope.merge_declare, Scope.declare_append]
    exact .refl _

theorem condition_alike (change : Update) (stored : List Binding) :
    Alike (match change.selection with
        | none => pure stored
        | some condition => do
          let scope ← change.scope
          let compared ← condition.bindings scope
          return stored ++ compared)
      (do
        let compared ← Step.runAll .empty change.conditionSteps
        return stored ++ compared) := by
  unfold conditionSteps
  cases change.selection with
  | none =>
    rw [Step.runAll_nil, Walk.pure_bind, List.append_nil]
    exact .refl _
  | some condition =>
    have walked := clause_alike _ change.scope_alike condition.bindings_alike
    refine Alike.trans ?_ (walked.bind fun compared => .refl _)
    rw [Walk.bind_assoc]
    exact .refl _

theorem bindings_alike (change : Update) :
    Alike change.bindings (Step.runAll .empty change.steps) := by
  unfold bindings steps
  cases change.table? with
  | none => exact ⟨rfl, rfl⟩
  | some name =>
    simp only [List.append_assoc]
    refine require_alike name (fun relation =>
      change.assignments.flatMap (assignmentSteps relation) ++ change.conditionSteps) fun relation => ?_
    refine (Alike.emit_bind _ _).trans ?_
    rw [Step.runAll_append]
    exact (assignments_alike .empty relation change.assignments).bind change.condition_alike

end Update

namespace Delete

theorem scope_alike (deletion : Delete) :
    Alike deletion.scope (Scope.empty.withTables deletion.scopeTables) := by
  unfold scope scopeTables
  cases deletion.sources with
  | nil => exact .refl _
  | cons first rest => exact first.factor.declarations_alike.bind fun _ => .refl _

theorem bindings_alike (deletion : Delete) :
    Alike deletion.bindings (Step.runAll .empty deletion.steps) := by
  refine clause_alike _ deletion.scope_alike fun inner => ?_
  exact (Alike.emit_bind _ _).trans (selectionBindings_alike deletion.selection inner)

end Delete

/-- The walk of a statement is like the run of its steps. -/
theorem Statement.bindings_alike (statement : Statement) :
    Alike statement.bindings (Step.runAll .empty statement.steps) := by
  cases statement with
  | query inner => exact inner.bindings_alike none
  | insert insertion => exact insertion.bindings_alike
  | update change => exact change.bindings_alike
  | delete deletion => exact deletion.bindings_alike
  | other parts => exact ⟨rfl, rfl⟩

/-- An analysis is made of the bindings that the walk of the statement finds. -/
theorem Statement.analyze_outcome (statement : Statement) :
    statement.analyze.outcome =
      statement.bindings.outcome.map (Analysis.ofBindings statement statement.bindings) := by
  rw [Statement.analyze, Walk.outcome_bind (Walk.outcome_emit _)]
  cases walked : statement.bindings.outcome with
  | ok found => rw [Walk.outcome_bind walked]; rfl
  | error cause => rw [Walk.bind_of_error walked]; rfl

/-- What the steps of a statement determine of its analysis: the columns of the parameters and the
kinds of the warnings, but not their texts. -/
def Analysis.outline (analysis : Analysis) : ParamMap Column × List Warning.Kind :=
  (analysis.params, analysis.warnings.map Warning.kind)

theorem Statement.outline_eq (statement : Statement) :
    statement.analyze.outcome.map Analysis.outline =
      (Step.runAll .empty statement.steps).outcome.map fun found =>
        (ParamMap.ofList found, (Step.runAll .empty statement.steps).kinds) := by
  rw [statement.analyze_outcome, ← statement.bindings_alike.outcome, ← statement.bindings_alike.kinds]
  cases statement.bindings.outcome with
  | ok found => rfl
  | error cause => rfl

/-- The placeholders of an analysis do not depend on the walk. -/
theorem Statement.outline_placeholders_eq (statement : Statement) :
    statement.analyze.outcome.map (fun analysis => (analysis.outline, analysis.placeholders)) =
      (statement.analyze.outcome.map Analysis.outline).map fun outline =>
        (outline, statement.params) := by
  rw [statement.analyze_outcome]
  cases statement.bindings.outcome with
  | ok found => rfl
  | error cause => rfl

/-- Statements with the same steps and the same parameters are analyzed alike. -/
theorem Statement.outline_placeholders_of_steps_eq {first second : Statement}
    (steps : first.steps = second.steps) (params : first.params = second.params) :
    first.analyze.outcome.map (fun analysis => (analysis.outline, analysis.placeholders)) =
      second.analyze.outcome.map (fun analysis => (analysis.outline, analysis.placeholders)) := by
  rw [first.outline_placeholders_eq, second.outline_placeholders_eq, first.outline_eq,
    second.outline_eq, steps, params]

end SqlBinding
