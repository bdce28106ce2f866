import SqlBinding.Proofs.EntryOrder
import SqlBinding.Proofs.LastBinding
import SqlBinding.Proofs.Traversal

namespace SqlBinding

/-- An assignment to a column of the given name whose value is a parameter. -/
structure Assignment.Stores (assignment : Assignment) (param : Param) (name : Name) : Prop where
  target : assignment.target = .column name
  value : assignment.value.IsParam param

/-- The report on an assignment. -/
def Assignment.report? (assignment : Assignment) : Option Warning :=
  match assignment.target with
  | .tuple names => some ⟨.assignmentTarget, AssignmentTarget.render (.tuple names)⟩
  | .column _ => assignment.value.storedReport? true

namespace Update

/-- The column of a parameter in an UPDATE of a relation, where some parameters are bound by its
WHERE clause: that of the WHERE clause, else that of the last assignment that stores the parameter.
Of the name in front of such an assignment the last part counts. -/
inductive Decides (change : Update) (relation : Relation) (compared : ParamMap Column)
    (param : Param) : Option Column → Prop where
  | compared (bound : compared.get? param = some column) :
      Decides change relation compared param (some column)
  | stored {position : Nat} {assignment : Assignment} {name : Name} {column : Ident}
      (unbound : compared.get? param = none)
      (listed : change.assignments[position]? = some assignment)
      (stores : assignment.Stores param name) (last : name.getLast? = some column)
      (final : ∀ (later : Nat) (other : Assignment), position < later →
        change.assignments[later]? = some other → ∀ name, ¬ other.Stores param name) :
      Decides change relation compared param (some { relation, name := column.canonical })
  | absent (unbound : compared.get? param = none)
      (unstored : ∀ assignment ∈ change.assignments, ∀ name, ¬ assignment.Stores param name) :
      Decides change relation compared param none

/-- What the WHERE clause of an UPDATE binds and reports, walked in the scope of the target with its
joins and of the FROM clause; nothing if there is no WHERE clause. -/
inductive Compares (change : Update) : ParamMap Column → List Warning → Prop where
  | nothing (absent : change.selection = none) : Compares change .empty []
  | clause {condition : Expr} {scope : Scope} {found : List Binding}
      (present : change.selection = some condition)
      (entered : (Scope.ofSources (change.target :: change.sources.getD [])).outcome = .ok scope)
      (walked : (condition.bindings scope).outcome = .ok found) :
      Compares change (.ofList found) (condition.bindings scope).warnings

section
variable {assignment : Assignment}

theorem assignmentBindings_of_stores (stores : assignment.Stores param name) (relation : Relation) :
    assignmentBindings relation assignment = (do
      let column ← Walk.require (.emptyObjectName name.render) name.getLast?
      return [(param, { relation, name := column.canonical })]) := by
  simp only [assignmentBindings, stores.target, Expr.isParam_iff.mp stores.value]

/-- An assignment that stores no parameter does nothing but report. -/
theorem assignmentBindings_of_not_stores (unstored : ∀ param name, ¬ assignment.Stores param name)
    (relation : Relation) :
    assignmentBindings relation assignment =
      ⟨assignment.report?.toList.map .unsupported, assignment.report?.toList, .ok []⟩ := by
  unfold assignmentBindings Assignment.report?
  cases target : assignment.target with
  | tuple names => rfl
  | column name =>
    cases operand : Operand.of assignment.value with
    | param param =>
      exact absurd ⟨target, Expr.isParam_iff.mpr operand⟩ (unstored param name)
    | placeholder text =>
      rw [Expr.storedReport?_of_placeholder operand]
      rfl
    | column | json | subquery | other =>
      rw [Expr.storedReport?_of_other (by simp [operand]) (by simp [operand])]
      rfl

theorem warnings_assignmentBindings (relation : Relation) (assignment : Assignment) :
    (assignmentBindings relation assignment).warnings = assignment.report?.toList := by
  by_cases stores : ∃ param name, assignment.Stores param name
  · obtain ⟨param, name, stores⟩ := stores
    have unreported : assignment.report? = none := by
      rw [Assignment.report?, stores.target]
      exact Expr.storedReport?_of_param (Expr.isParam_iff.mp stores.value) true
    rw [assignmentBindings_of_stores stores, Walk.warnings_bind_pure, unreported]
    cases name.getLast? <;> rfl
  · have unstored : ∀ param name, ¬ assignment.Stores param name := by simpa using stores
    rw [assignmentBindings_of_not_stores unstored]

theorem stores_of_bound
    (bound : (assignmentBindings relation assignment).bound.get? param = some stored) :
    ∃ name column, assignment.Stores param name ∧ name.getLast? = some column ∧
      stored = { relation, name := column.canonical } := by
  by_cases stores : ∃ ordinal name, assignment.Stores ordinal name
  · obtain ⟨ordinal, name, stores⟩ := stores
    rw [assignmentBindings_of_stores stores] at bound
    cases last : name.getLast? with
    | none =>
      rw [last] at bound
      cases bound
    | some column =>
      rw [last, Walk.get?_bound_of_single rfl] at bound
      split at bound
      case isTrue same => exact ⟨name, column, same ▸ stores, last, (Option.some.inj bound).symm⟩
      case isFalse => cases bound
  · have unstored : ∀ ordinal name, ¬ assignment.Stores ordinal name := by simpa using stores
    rw [assignmentBindings_of_not_stores unstored, Walk.get?_bound_of_nil rfl] at bound
    cases bound

theorem not_stores_of_unbound
    (walked : (assignmentBindings relation assignment).outcome = .ok found)
    (unbound : (assignmentBindings relation assignment).bound.get? param = none) (name : Name) :
    ¬ assignment.Stores param name := by
  intro stores
  rw [assignmentBindings_of_stores stores] at walked unbound
  obtain ⟨column, last, -⟩ := Walk.bind_ok_iff.mp walked
  rw [Walk.require_ok_iff.mp last, Walk.get?_bound_of_single rfl, if_pos rfl] at unbound
  cases unbound

end

/-- The WHERE clause goes before the assignments, and of these the last one counts. -/
theorem decides_of_assigned {change : Update}
    (assigned : (Walk.gather (assignmentBindings relation) change.assignments).outcome = .ok stored)
    (compared : ParamMap Column) (param : Param) :
    change.Decides relation compared param
      ((compared.get? param).or ((ParamMap.ofList stored).get? param)) := by
  have each := Walk.gather_ok_iff.mp ⟨stored, assigned⟩
  cases unbound : compared.get? param with
  | some column => exact .compared unbound
  | none =>
    rw [Option.none_or, ← Walk.bound_of_ok assigned]
    cases last :
        (Walk.gather (assignmentBindings relation) change.assignments).bound.get? param with
    | some column =>
      obtain ⟨position, assignment, listed, bound, later⟩ :=
        Walk.last_of_get?_bound_gather assigned last
      obtain ⟨name, ident, stores, part, rfl⟩ := stores_of_bound bound
      refine .stored unbound listed stores part ?_
      intro next other behind alsoListed
      obtain ⟨_, walked⟩ := each other (List.mem_of_getElem? alsoListed)
      exact not_stores_of_unbound walked (later next other behind alsoListed)
    | none =>
      refine .absent unbound ?_
      intro assignment member
      obtain ⟨_, walked⟩ := each assignment member
      exact not_stores_of_unbound walked
        ((Walk.get?_bound_gather_eq_none_iff assigned).mp last assignment member)

/-- The assignments of an UPDATE report in their order, and the WHERE clause behind them. -/
theorem compares_of_ok {change : Update} (target : change.table? = some name)
    (walked : change.bindings.outcome = .ok found) :
    ∃ relation stored compared warnings, Relation.ofName? name = some relation ∧
      (Walk.gather (assignmentBindings relation) change.assignments).outcome = .ok stored ∧
      change.Compares (.ofList compared) warnings ∧ found = stored ++ compared ∧
      change.bindings.warnings = change.assignments.filterMap Assignment.report? ++ warnings := by
  obtain ⟨relation, stored, compared, known, assigned, rfl, clause⟩ := bindings_ok target walked
  have reports := Walk.warnings_gather_eq_filterMap (warnings_assignmentBindings relation) assigned
  rw [bindings, target]
  simp only [known, Walk.require, Walk.pure_bind]
  rw [Walk.warnings_bind (Walk.outcome_emit _), Walk.warnings_bind assigned, reports]
  rcases clause with ⟨absent, rfl⟩ | ⟨condition, scope, present, entered, continued⟩
  · refine ⟨relation, stored, [], [], rfl, assigned, .nothing absent, rfl, ?_⟩
    rw [absent]
    rfl
  · have around : (Scope.ofSources (change.target :: change.sources.getD [])).outcome = .ok scope :=
      (ofSources_alike _).outcome.trans (change.scope_alike.outcome.symm.trans entered)
    refine ⟨relation, stored, compared, _, rfl, assigned, .clause present around continued, rfl, ?_⟩
    simp only [present]
    rw [Walk.warnings_bind entered, Walk.warnings_bind_pure,
      Scope.warnings_eq_nil_of_alike change.scope_alike]
    rfl

/-- An UPDATE of a table whose analysis succeeds decides on each parameter by its WHERE clause and
its assignments. It reports on the assignments in their order, then on the WHERE clause. -/
theorem analyze_decides {change : Update} (target : change.table? = some name)
    (analyzed : (Statement.update change).analyze.outcome = .ok analysis) :
    ∃ relation compared warnings, Relation.ofName? name = some relation ∧
      change.Compares compared warnings ∧
      (∀ param, change.Decides relation compared param (analysis.params.get? param)) ∧
      analysis.warnings = change.assignments.filterMap Assignment.report? ++ warnings := by
  obtain ⟨found, walked, rfl⟩ := Statement.analyze_ok_iff.mp analyzed
  obtain ⟨relation, stored, compared, warnings, known, assigned, compares, rfl, reported⟩ :=
    compares_of_ok target walked
  refine ⟨relation, .ofList compared, warnings, known, compares, ?_, reported⟩
  intro param
  have decided := decides_of_assigned assigned (.ofList compared) param
  rwa [← ParamMap.get?_merge, ← ParamMap.ofList_append] at decided

/-- `UPDATE "s"."t" AS "x" SET "a" = $1, ("b", "c") = NULL, "x"."d" = ($1), "e" = :y, "f" = $2
FROM "u" AS "w" WHERE "w"."g" = $2 AND NULL` -/
def repeatedStores : Update where
  opening := "UPDATE"
  target := ⟨.table [⟨"s", some .double⟩, ⟨"t", some .double⟩] (some ⟨⟨"x", some .double⟩, []⟩), []⟩
  assignments := [⟨.column [⟨"a", some .double⟩], .literal (.placeholder "$1")⟩,
    ⟨.tuple [[⟨"b", some .double⟩], [⟨"c", some .double⟩]], .literal .null⟩,
    ⟨.column [⟨"x", some .double⟩, ⟨"d", some .double⟩], .nested (.literal (.placeholder "$1"))⟩,
    ⟨.column [⟨"e", some .double⟩], .literal (.placeholder ":y")⟩,
    ⟨.column [⟨"f", some .double⟩], .literal (.placeholder "$2")⟩]
  sources := some [⟨labelled "u" "w", []⟩]
  sourcesFirst := false
  selection := some (.logical .and
    (comparedWith [⟨"w", some .double⟩, ⟨"g", some .double⟩] "$2") (.literal .null))
  closing := []

/-- The second assignment of `$1` counts, and for `$2` the WHERE clause does. -/
theorem analyze_decides_repeated :
    repeatedStores.table? = some [⟨"s", some .double⟩, ⟨"t", some .double⟩] ∧
    ∃ analysis, (Statement.update repeatedStores).analyze.outcome = .ok analysis ∧
      (∃ compared warnings, repeatedStores.Compares compared warnings ∧
        (∀ param, repeatedStores.Decides ⟨some "s", "t"⟩ compared param
          (analysis.params.get? param)) ∧
        analysis.warnings =
          [⟨.assignmentTarget, "(\"b\", \"c\")"⟩, ⟨.placeholder, ":y"⟩] ++ warnings) ∧
      analysis.params.entries.map Prod.snd =
        [{ relation := ⟨some "s", "t"⟩, name := "d" }, { relation := ⟨none, "u"⟩, name := "g" }] := by
  have target : repeatedStores.table? = some [⟨"s", some .double⟩, ⟨"t", some .double⟩] := rfl
  refine ⟨target, _, rfl, ?_, rfl⟩
  obtain ⟨relation, compared, warnings, known, compares, decides, reported⟩ :=
    analyze_decides target rfl
  obtain rfl := Option.some.inj known
  exact ⟨compared, warnings, compares, decides, reported⟩

end Update
end SqlBinding
