import SqlBinding.Proofs.Matching

/-! Trees that are read in the same way. Two expressions match if they have the same form, parentheses
apart, and their operands match down to the WHERE clauses of subqueries. What else stands in a query
does not count, nor does a phrase. Statements that match have the same steps, up to other names for
tables and other parameters. A change of the tree, whatever it does to a statement, keeps the steps as
soon as it takes each statement to one that matches.
-/

namespace SqlBinding

/-- Two bodies of the same kind, the second with expressions replaced. Two SELECTs have matching
tables. -/
inductive Body.Resembles (names : String → String) (change : Expr → Expr) : Body → Body → Prop where
  | select {block replaced : Select}
      (tables : List.Forall₂ (Table.Matches names) (tablesOf block.sources)
        (tablesOf replaced.sources))
      (clause : replaced.selection = block.selection.map change) :
      Resembles names change (.select block) (.select replaced)
  | values : Resembles names change (.values rows marked) (.values (rows.map (List.map change)) marked)
  | phrase : Resembles names change (.phrase parts) (.phrase replaced)

inductive Expr.Matches (names : String → String) (params : Param → Param) : Expr → Expr → Prop where
  | column (same : Name.Matches names parts replaced) :
      Matches names params (.column parts) (.column replaced)
  | placeholder (same : Param.ofText? written = (Param.ofText? text).map params) :
      Matches names params (.literal (.placeholder text)) (.literal (.placeholder written))
  | literal (plain : ∀ text, value ≠ .placeholder text) :
      Matches names params (.literal value) (.literal value)
  | opened (inside : Matches names params enclosed other) :
      Matches names params (.nested enclosed) other
  | enclosed (inside : Matches names params expr replaced) :
      Matches names params expr (.nested replaced)
  | logical (first : Matches names params left left') (second : Matches names params right right') :
      Matches names params (.logical connective left right) (.logical connective left' right')
  | negation (inside : Matches names params operand replaced) :
      Matches names params (.negation operand) (.negation replaced)
  | binary (first : Matches names params left left') (second : Matches names params right right') :
      Matches names params (.binary op left right) (.binary op left' right')
  | inList {change : Expr → Expr} (first : Matches names params needle needle')
      (each : ∀ item ∈ items, Matches names params item (change item)) :
      Matches names params (.inList negated needle items) (.inList negated needle' (items.map change))
  | isNull : Matches names params (.isNull negated operand) (.isNull negated replaced)
  | subquery {change : Expr → Expr} {query replaced : Query}
      (bodies : Body.Resembles names change query.core replaced.core)
      (clauses : ∀ condition, query.condition? = some condition →
        Matches names params condition (change condition)) :
      Matches names params (.subquery query) (.subquery replaced)
  | phrase : Matches names params (.phrase parts) (.phrase replaced)

inductive Query.Matches (names : String → String) (params : Param → Param) : Query → Query → Prop where
  | intro {change : Expr → Expr} {query replaced : Query}
      (bodies : Body.Resembles names change query.core replaced.core)
      (clauses : ∀ condition, query.condition? = some condition →
        Expr.Matches names params condition (change condition)) : Matches names params query replaced

section
variable {names : String → String} {params : Param → Param}

theorem Query.steps_of_resembles {change : Expr → Expr} {query replaced : Query}
    (bodies : Body.Resembles names change query.core replaced.core)
    (clauses : ∀ condition, query.condition? = some condition →
      (change condition).steps = condition.steps.map (Step.rename names params)) :
    replaced.steps = query.steps.map (Step.rename names params) := by
  rw [query.steps_core, replaced.steps_core]
  unfold Query.condition? at clauses
  generalize query.core = body, replaced.core = other at bodies clauses
  cases bodies with
  | @select block _ tables clause =>
    have selection : selectionSteps (block.selection.map change) =
        (selectionSteps block.selection).map (Step.rename names params) := by
      cases given : block.selection with
      | none =>
        rw [Option.map_none, selectionSteps]
        rfl
      | some condition =>
        rw [Option.map_some, selectionSteps, selectionSteps]
        exact clauses condition given
    rw [Body.steps, Body.steps, Select.steps_eq, Select.steps_eq, clause, selection]
    exact clauseSteps_matches tables _
  | values | phrase =>
    rw [Body.steps, Body.steps]
    rfl

namespace Expr.Matches
variable {expr other : Expr}

theorem jsonKey? (same : Expr.Matches names params expr other) :
    other.jsonKey? = expr.jsonKey? := by
  induction same with
  | opened inside ih =>
    rw [ih]
    rfl
  | enclosed inside ih =>
    rw [Expr.jsonKey?]
    exact ih
  | _ => rfl

theorem operand (same : Expr.Matches names params expr other) :
    Operand.Matches names params (.of expr) (.of other) := by
  induction same with
  | column same => exact .column same
  | @placeholder _ text same =>
    rw [Operand.of, Operand.of, Operand.ofPlaceholder, Operand.ofPlaceholder, same]
    cases Param.ofText? text with
    | none => exact .placeholder
    | some ordinal => exact .param
  | @literal value plain =>
    cases value with
    | placeholder text => exact absurd rfl (plain text)
    | _ => exact .other
  | opened inside ih =>
    rw [Operand.of]
    exact ih
  | enclosed inside ih =>
    rw [Operand.of]
    exact ih
  | binary first second ihLeft ihRight =>
    rw [Operand.of, Operand.of, second.jsonKey?]
    split
    · exact ihLeft.access _ _
    · exact .other
  | subquery => exact .subquery
  | logical | negation | inList | isNull | phrase => exact .other

/-- The steps of expressions that match, also where both are subqueries in parentheses. -/
private theorem steps_and_subquerySteps (same : Expr.Matches names params expr other) :
    other.steps = expr.steps.map (Step.rename names params) ∧
      other.subquerySteps = expr.subquerySteps.map (List.map (Step.rename names params)) := by
  induction same with
  | opened inside ih =>
    rw [Expr.steps, Expr.subquerySteps]
    exact ih
  | enclosed inside ih =>
    rw [Expr.steps, Expr.subquerySteps]
    exact ih
  | logical first second ihLeft ihRight =>
    refine ⟨?_, rfl⟩
    rw [Expr.steps, Expr.steps, ihLeft.1, ihRight.1, List.map_append]
  | negation inside ih =>
    refine ⟨?_, rfl⟩
    rw [Expr.steps, Expr.steps, ih.1]
  | @binary _ _ right _ _ first second ihLeft ihRight =>
    refine ⟨?_, rfl⟩
    rw [Expr.steps, Expr.steps, ihRight.2, comparisonSteps_matches first.operand second.operand]
    cases right.subquerySteps <;> rfl
  | inList first each ihFirst ihEach =>
    refine ⟨?_, rfl⟩
    rw [Expr.steps, Expr.steps]
    exact listSteps_matches first.operand fun item member => (each item member).operand
  | @subquery change query replaced bodies clauses ih =>
    have inside := Query.steps_of_resembles bodies fun condition clause => (ih condition clause).1
    rw [Expr.steps, Expr.steps, Expr.subquerySteps, Expr.subquerySteps, inside]
    exact ⟨rfl, rfl⟩
  | column | placeholder | literal | isNull | phrase => exact ⟨rfl, rfl⟩

theorem steps (same : Expr.Matches names params expr other) :
    other.steps = expr.steps.map (Step.rename names params) :=
  same.steps_and_subquerySteps.1

end Expr.Matches

theorem Expr.Matches.literal_self (value : Literal) :
    Expr.Matches names id (.literal value) (.literal value) := by
  cases value with
  | placeholder text => exact .placeholder (by rw [Option.map_id, id_eq])
  | _ => exact .literal nofun

theorem Query.Matches.steps {query replaced : Query}
    (same : Query.Matches names params query replaced) :
    replaced.steps = query.steps.map (Step.rename names params) := by
  cases same with
  | intro bodies clauses =>
    exact Query.steps_of_resembles bodies fun condition clause => (clauses condition clause).steps

/-- What an INSERT stores: nothing, a query in parentheses, or a body with cells that match. -/
inductive Insert.SourceMatches (names : String → String) (params : Param → Param) :
    Option Query → Option Query → Prop where
  | none : SourceMatches names params none none
  | layered {source replaced : Query} (first : source.body = .query stored)
      (second : replaced.body = .query other) : SourceMatches names params (some source) (some replaced)
  | body {change : Expr → Expr} {source replaced : Query}
      (bodies : Body.Resembles names change source.body replaced.body)
      (cells : ∀ cell, Expr.Matches names params cell (change cell)) :
      SourceMatches names params (some source) (some replaced)

inductive Target.Matches : Target → Target → Prop where
  | table (same : Relation.ofName? replaced = Relation.ofName? name) :
      Matches (.table name) (.table replaced)
  | function : Matches (.function call) (.function replaced)

structure Insert.Matches (names : String → String) (params : Param → Param)
    (insertion replaced : Insert) : Prop where
  target : Target.Matches insertion.target replaced.target
  columns : replaced.columns.map Ident.canonical = insertion.columns.map Ident.canonical
  source : Insert.SourceMatches names params insertion.source replaced.source

structure Assignment.Matches (names : String → String) (params : Param → Param)
    (assignment replaced : Assignment) : Prop where
  target : AssignmentTarget.Matches assignment.target replaced.target
  value : Expr.Matches names params assignment.value replaced.value

structure Update.Matches (names : String → String) (params : Param → Param)
    (change replaced : Update) : Prop where
  target : replaced.table?.map Relation.ofName? = change.table?.map Relation.ofName?
  assignments :
    List.Forall₂ (Assignment.Matches names params) change.assignments replaced.assignments
  tables : List.Forall₂ (Table.Matches names) change.scopeTables replaced.scopeTables
  selection : Option.Rel (Expr.Matches names params) change.selection replaced.selection

structure Delete.Matches (names : String → String) (params : Param → Param)
    (deletion replaced : Delete) : Prop where
  tables : List.Forall₂ (Table.Matches names) deletion.scopeTables replaced.scopeTables
  selection : Option.Rel (Expr.Matches names params) deletion.selection replaced.selection

inductive Statement.Matches (names : String → String) (params : Param → Param) :
    Statement → Statement → Prop where
  | query (same : Query.Matches names params asked replaced) :
      Matches names params (.query asked) (.query replaced)
  | insert (same : Insert.Matches names params insertion replaced) :
      Matches names params (.insert insertion) (.insert replaced)
  | update (same : Update.Matches names params change replaced) :
      Matches names params (.update change) (.update replaced)
  | delete (same : Delete.Matches names params deletion replaced) :
      Matches names params (.delete deletion) (.delete replaced)
  | other : Matches names params (.other parts) (.other replaced)

/-- Whether a source is a single row can be seen from its body. -/
theorem Insert.singleRow?_of_resembles {change : Expr → Expr} {source replaced : Query}
    (bodies : Body.Resembles names change source.body replaced.body) :
    singleRow? replaced = (singleRow? source).map (List.map change) := by
  unfold singleRow?
  generalize source.body = body, replaced.body = other at bodies
  cases bodies with
  | select | phrase => rfl
  | @values rows =>
    match rows with
    | [] => rfl
    | [row] => rfl
    | first :: second :: rest => rfl

theorem Insert.SourceMatches.steps {source replaced : Option Query}
    (same : SourceMatches names params source replaced) (relation : Relation)
    {columns columns' : List Ident}
    (canonical : columns'.map Ident.canonical = columns.map Ident.canonical) :
    sourceSteps relation columns' replaced =
      (sourceSteps relation columns source).map (Step.rename names params) := by
  cases same with
  | none => rfl
  | layered first second => simp [sourceSteps, singleRow?, first, second, Step.rename]
  | body bodies cells =>
    exact sourceSteps_matches relation canonical (singleRow?_of_resembles bodies)
      fun cell => (cells cell).operand

theorem Insert.Matches.steps {insertion replaced : Insert}
    (same : Insert.Matches names params insertion replaced) :
    replaced.steps = insertion.steps.map (Step.rename names params) := by
  have target := same.target
  unfold Insert.steps
  generalize insertion.target = before, replaced.target = after at target
  cases target with
  | table named =>
    simp only [List.map_append]
    rw [named, nameSteps_matches named, same.source.steps _ same.columns]
  | function => rfl

theorem selectionSteps_matches {selection replaced : Option Expr}
    (same : Option.Rel (Expr.Matches names params) selection replaced) :
    selectionSteps replaced = (selectionSteps selection).map (Step.rename names params) := by
  cases same with
  | none =>
    rw [selectionSteps]
    rfl
  | some same =>
    rw [selectionSteps, selectionSteps]
    exact same.steps

theorem assignmentsSteps_matches {assignments replaced : List Assignment}
    (same : List.Forall₂ (Assignment.Matches names params) assignments replaced)
    (relation : Relation) :
    replaced.flatMap (Update.assignmentSteps relation) =
      (assignments.flatMap (Update.assignmentSteps relation)).map (Step.rename names params) := by
  induction same with
  | nil => rfl
  | cons first rest ih =>
    rw [List.flatMap_cons, List.flatMap_cons, List.map_append, ih,
      Update.assignmentSteps_matches relation first.target first.value.operand]

namespace Update.Matches
variable {change replaced : Update}

theorem conditionSteps (same : Update.Matches names params change replaced) :
    replaced.conditionSteps = change.conditionSteps.map (Step.rename names params) := by
  have selection := same.selection
  unfold Update.conditionSteps
  generalize change.selection = before, replaced.selection = after at selection
  cases selection with
  | none => rfl
  | some condition =>
    simp only [condition.steps]
    exact clauseSteps_matches same.tables _

theorem steps (same : Update.Matches names params change replaced) :
    replaced.steps = change.steps.map (Step.rename names params) := by
  have target := same.target
  rw [Update.steps, Update.steps, same.conditionSteps]
  generalize change.table? = before, replaced.table? = after at target
  cases before with
  | none =>
    obtain rfl := Option.map_eq_none_iff.mp target
    rfl
  | some name =>
    obtain ⟨name', rfl, named⟩ := Option.map_eq_some_iff.mp target
    simp only [List.map_append]
    rw [named, nameSteps_matches named, assignmentsSteps_matches same.assignments]

end Update.Matches

theorem Delete.Matches.steps {deletion replaced : Delete}
    (same : Delete.Matches names params deletion replaced) :
    replaced.steps = deletion.steps.map (Step.rename names params) := by
  rw [Delete.steps, Delete.steps, selectionSteps_matches same.selection]
  exact clauseSteps_matches same.tables _

/-- Statements that match have the same steps, up to the names and parameters. -/
theorem Statement.Matches.steps {statement replaced : Statement}
    (same : Statement.Matches names params statement replaced) :
    replaced.steps = statement.steps.map (Step.rename names params) := by
  cases same with
  | query same => exact same.steps
  | insert same => exact same.steps
  | update same => exact same.steps
  | delete same => exact same.steps
  | other => rfl

/-- A change of queries leaves or drops their layers and replaces the body inside them. -/
structure Query.Carries (names : String → String) (change : Expr → Expr) (outside : Query → Query)
    (inside : Body → Body) : Prop where
  outer : ∀ opening body closing, (outside ⟨opening, body, closing⟩).core = (inside body).core
  layer : ∀ inner, (inside (.query inner)).core = (outside inner).core
  body : ∀ body, (∀ inner, body ≠ .query inner) → Body.Resembles names change body (inside body)

theorem Body.Resembles.core_eq {change : Expr → Expr} {body replaced : Body}
    (same : Body.Resembles names change body replaced) : replaced.core = replaced := by
  cases same <;> rw [Body.core]

theorem selection_matches {change : Expr → Expr}
    (exprs : ∀ expr, Expr.Matches names params expr (change expr)) (selection : Option Expr) :
    Option.Rel (Expr.Matches names params) selection (selection.map change) := by
  cases selection with
  | none => exact .none
  | some condition => exact .some (exprs condition)

namespace Query.Carries
variable {change : Expr → Expr} {outside : Query → Query} {inside : Body → Body}

private theorem resembles_last (carries : Query.Carries names change outside inside) {body : Body}
    (last : ∀ inner, body ≠ .query inner) (core : body.core = body) :
    Body.Resembles names change body.core (inside body).core := by
  have same := carries.body body last
  rw [core, same.core_eq]
  exact same

mutual

theorem resembles (carries : Query.Carries names change outside inside) :
    ∀ query : Query, Body.Resembles names change query.core (outside query).core
  | ⟨opening, body, closing⟩ => by
    rw [carries.outer, Query.core]
    exact carries.resembles_body body

theorem resembles_body (carries : Query.Carries names change outside inside) :
    ∀ body : Body, Body.Resembles names change body.core (inside body).core
  | .query inner => by
    rw [carries.layer, Body.core]
    exact carries.resembles inner
  | .select _ => carries.resembles_last nofun (by rw [Body.core])
  | .values _ _ => carries.resembles_last nofun (by rw [Body.core])
  | .phrase _ => carries.resembles_last nofun (by rw [Body.core])

end

theorem toMatches (carries : Query.Carries names change outside inside)
    (exprs : ∀ expr, Expr.Matches names params expr (change expr)) (query : Query) :
    Query.Matches names params query (outside query) :=
  .intro (carries.resembles query) fun condition _ => exprs condition

end Query.Carries

/-- A source whose body is replaced, unless it is a query in parentheses, which stays one. -/
theorem Insert.SourceMatches.of_body (inside : Body → Body) {change : Expr → Expr}
    {source replaced : Query}
    (exprs : ∀ expr, Expr.Matches names params expr (change expr))
    (bodies : ∀ body, (∀ inner, body ≠ .query inner) →
      Body.Resembles names change body (inside body))
    (layered : ∀ inner, ∃ other, inside (.query inner) = .query other)
    (same : replaced.body = inside source.body) :
    Insert.SourceMatches names params (some source) (some replaced) := by
  by_cases layer : ∃ inner, source.body = .query inner
  · obtain ⟨inner, layer⟩ := layer
    obtain ⟨other, kept⟩ := layered inner
    exact .layered layer (by rw [same, layer, kept])
  · have resembles := bodies source.body (not_exists.mp layer)
    rw [← same] at resembles
    exact .body resembles exprs

/-- A change of the items of a FROM clause keeps their forms and takes each table to one that
matches. -/
structure Source.Carries (names : String → String) (factor : Factor → Factor)
    (source : Source → Source) : Prop where
  table : ∀ name label, ∃ name' label', factor (.table name label) = .table name' label' ∧
    Table.Matches names ⟨name, label⟩ ⟨name', label'⟩
  call : ∀ name arguments numbering label closing, ∃ name' arguments' numbering' label' closing',
    factor (.call name arguments numbering label closing) =
      .call name' arguments' numbering' label' closing' ∧
    Table.Matches names ⟨name, label⟩ ⟨name', label'⟩
  join : ∀ inner label, ∃ label', factor (.join inner label) = .join (source inner) label'
  other : ∀ parts label, ∃ parts' label', factor (.other parts label) = .other parts' label'
  first : ∀ item, (source item).factor = factor item.factor
  joined : ∀ item, (source item).joins.map Join.factor = item.joins.map fun join => factor join.factor

namespace Source.Carries
variable {factor : Factor → Factor} {source : Source → Source}

theorem tables_eq (carries : Source.Carries names factor source) (item : Source) :
    (source item).tables = (factor item.factor).tables ++
      item.joins.flatMap fun join => (factor join.factor).tables := by
  have joined := congrArg (List.flatMap Factor.tables) (carries.joined item)
  rw [List.flatMap_map, List.flatMap_map] at joined
  have whole (item : Source) : item.tables = item.factor.tables ++
      item.joins.flatMap fun join => join.factor.tables := by
    cases item
    rw [Source.tables, tablesOfJoins_eq_flatMap]
  rw [whole, carries.first, joined]

mutual

theorem factor_tables (carries : Source.Carries names factor source) : ∀ item : Factor,
    List.Forall₂ (Table.Matches names) item.tables (factor item).tables
  | .table name label => by
    obtain ⟨_, _, replaced, same⟩ := carries.table name label
    rw [replaced, Factor.tables, Factor.tables]
    exact .cons same .nil
  | .call name arguments numbering label closing => by
    obtain ⟨_, _, _, _, _, replaced, same⟩ := carries.call name arguments numbering label closing
    rw [replaced, Factor.tables, Factor.tables]
    exact .cons same .nil
  | .join inner label => by
    obtain ⟨_, replaced⟩ := carries.join inner label
    rw [replaced, Factor.tables, Factor.tables]
    exact carries.tables inner
  | .other parts label => by
    obtain ⟨_, _, replaced⟩ := carries.other parts label
    rw [replaced, Factor.tables, Factor.tables]
    exact .nil

theorem tables (carries : Source.Carries names factor source) : ∀ item : Source,
    List.Forall₂ (Table.Matches names) item.tables (source item).tables
  | ⟨first, joins⟩ => by
    rw [carries.tables_eq, Source.tables]
    exact List.rel_append (carries.factor_tables first) (carries.joins_tables joins)

theorem joins_tables (carries : Source.Carries names factor source) : ∀ joins : List Join,
    List.Forall₂ (Table.Matches names) (tablesOfJoins joins)
      (joins.flatMap fun join => (factor join.factor).tables)
  | [] => by
    rw [tablesOfJoins]
    exact .nil
  | ⟨_, first, _⟩ :: rest => by
    rw [tablesOfJoins, List.flatMap_cons]
    exact List.rel_append (carries.factor_tables first) (carries.joins_tables rest)

end

theorem tablesOf (carries : Source.Carries names factor source) (sources : List Source) :
    List.Forall₂ (Table.Matches names) (tablesOf sources) (tablesOf (sources.map source)) := by
  induction sources with
  | nil => exact .nil
  | cons first rest ih => exact List.rel_append (carries.tables first) ih

theorem update_tables (carries : Source.Carries names factor source) {change replaced : Update}
    (target : replaced.target = source change.target)
    (sources : replaced.sources = change.sources.map (List.map source)) :
    List.Forall₂ (Table.Matches names) change.scopeTables replaced.scopeTables := by
  have items : replaced.target :: replaced.sources.getD [] =
      (change.target :: change.sources.getD []).map source := by
    rw [target, sources]
    cases change.sources <;> rfl
  rw [Update.scopeTables, Update.scopeTables, items]
  exact carries.tablesOf _

theorem update_target (carries : Source.Carries names factor source) {change replaced : Update}
    (target : replaced.target = source change.target) :
    replaced.table?.map Relation.ofName? = change.table?.map Relation.ofName? := by
  unfold Update.table?
  rw [target, carries.first]
  cases change.target.factor with
  | table name label =>
    obtain ⟨_, _, replaced, same⟩ := carries.table name label
    rw [replaced]
    exact congrArg some same.relation
  | call name arguments numbering label closing =>
    obtain ⟨_, _, _, _, _, replaced, same⟩ := carries.call name arguments numbering label closing
    rw [replaced]
    exact congrArg some same.relation
  | join inner label =>
    obtain ⟨_, replaced⟩ := carries.join inner label
    rw [replaced]
  | other parts label =>
    obtain ⟨_, _, replaced⟩ := carries.other parts label
    rw [replaced]

theorem delete_tables (carries : Source.Carries names factor source) {deletion replaced : Delete}
    (first : replaced.sources.head?.map Source.factor =
      deletion.sources.head?.map fun item => factor item.factor) :
    List.Forall₂ (Table.Matches names) deletion.scopeTables replaced.scopeTables := by
  have head (deletion : Delete) : deletion.scopeTables =
      ((deletion.sources.head?.map Source.factor).map Factor.tables).getD [] := by
    unfold Delete.scopeTables
    cases deletion.sources <;> rfl
  rw [head, head, first]
  cases deletion.sources.head? with
  | none => exact .nil
  | some item => exact carries.factor_tables item.factor

end Source.Carries

end

end SqlBinding
