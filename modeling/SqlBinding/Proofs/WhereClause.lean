import SqlBinding.Proofs.EntryOrder

/-! A WHERE clause in three kinds of statements. A DELETE makes the scope of its WHERE clause from one
factor, an UPDATE from its target with its FROM clause merged on top, and a SELECT from its FROM
clause inside the empty scope. Where the tables are the same so are these scopes, and then a condition
is read in the same way by all three.
-/

namespace SqlBinding
open Walk (Agree Alike)

/-- The columns of the parameters of a statement and the warnings about it, or the error. -/
def Statement.findings (statement : Statement) : Except Malformed (ParamMap Column × List Warning) :=
  statement.analyze.outcome.map fun analysis => (analysis.params, analysis.warnings)

/-- A SELECT that is a whole statement, with its FROM clause and its condition. -/
inductive Statement.Selects (sources : List Source) (condition : Expr) : Statement → Prop where
  | intro (opening projection views grouping closing : List Part) :
      Selects sources condition
        (.query ⟨opening, .select ⟨projection, sources, views, some condition, grouping⟩, closing⟩)

theorem Statement.findings_of_agree {first second : Statement}
    (agree : Agree Eq first.bindings second.bindings) : first.findings = second.findings := by
  unfold Statement.findings
  rw [first.analyze_outcome, second.analyze_outcome, agree.outcome_eq]
  cases second.bindings.outcome with
  | error cause => rfl
  | ok found =>
    have same : Analysis.params (.ofBindings first first.bindings found) =
        Analysis.params (.ofBindings second second.bindings found) := rfl
    exact congrArg Except.ok (Prod.ext same agree.warnings)

theorem Scope.agree_of_alike {entered other : Walk Scope} {scope : Scope} {tables : List Table}
    (first : Alike entered (scope.withTables tables))
    (second : Alike other (scope.withTables tables)) :
    Agree Eq entered other := by
  have reported : entered.warnings = other.warnings := by
    rw [Scope.warnings_eq_nil_of_alike first, Scope.warnings_eq_nil_of_alike second]
  have outcome : entered.outcome = other.outcome := first.outcome.trans second.outcome.symm
  refine ⟨reported, ?_⟩
  cases done : other.outcome with
  | ok value => exact .inl ⟨value, value, outcome.trans done, rfl, rfl⟩
  | error cause => exact .inr ⟨cause, outcome.trans done, rfl⟩

theorem Scope.withTables_unnamed (scope : Scope) (label : Option Alias) (rest : List Table)
    (unnamed : Relation.ofName? name = none) :
    (scope.withTables (⟨name, label⟩ :: rest)).outcome = .error (.emptyObjectName "") := by
  obtain rfl := (Relation.ofName?_eq_none_iff name).mp unnamed
  rfl

/-- A SELECT reads its condition like any walk that makes a scope of the same tables. -/
theorem Statement.Selects.bindings_agree {sources : List Source} {condition : Expr}
    {statement : Statement} {entered : Walk Scope} {next : Scope → Walk (List Binding)}
    (selects : Statement.Selects sources condition statement)
    (built : Alike entered (Scope.empty.withTables (tablesOf sources)))
    (same : ∀ scope, Agree Eq (next scope) (condition.bindings scope)) :
    Agree Eq (entered >>= next) statement.bindings := by
  cases selects with
  | intro opening projection views grouping closing =>
    rw [Statement.bindings, Query.bindings, Body.bindings, Select.bindings]
    apply (Scope.agree_of_alike built (nested_alike none sources)).bind
    intro scope found equal
    subst found
    rw [selectionBindings]
    exact (Agree.emit_bind (same scope).symm).symm

theorem Delete.bindings_agree {deletion : Delete} {factor : Factor} {joins : List Join}
    {others : List Source} {condition : Expr} {selection : Statement}
    (items : deletion.sources = ⟨factor, joins⟩ :: others)
    (clause : deletion.selection = some condition)
    (selects : Statement.Selects [⟨factor, []⟩] condition selection) :
    Agree Eq deletion.bindings selection.bindings := by
  have tables : deletion.scopeTables = tablesOf [⟨factor, []⟩] := by
    simp [Delete.scopeTables, items, tablesOf, Source.tables, tablesOfJoins]
  have built : Alike deletion.scope (Scope.empty.withTables (tablesOf [⟨factor, []⟩])) :=
    tables ▸ deletion.scope_alike
  apply selects.bindings_agree built
  intro scope
  rw [clause, selectionBindings]
  exact .emit_bind (.refl _ fun _ _ => rfl)

namespace Update

/-- The table that is updated is the first one in scope. -/
theorem exists_scopeTables_eq_cons {change : Update} (target : change.table? = some name) :
    ∃ label rest, change.scopeTables = ⟨name, label⟩ :: rest := by
  obtain ⟨_, ⟨factor, joins⟩, _, sources, _, _, _⟩ := change
  unfold table? at target
  cases factor with
  | table own label =>
    obtain rfl := Option.some.inj target
    refine ⟨label, tablesOfJoins joins ++ tablesOf (sources.getD []), ?_⟩
    simp [scopeTables, tablesOf, Source.tables, Factor.tables]
  | call own arguments numbering label closing =>
    obtain rfl := Option.some.inj target
    refine ⟨label, tablesOfJoins joins ++ tablesOf (sources.getD []), ?_⟩
    simp [scopeTables, tablesOf, Source.tables, Factor.tables]
  | join inner label => cases target
  | other parts label => cases target

theorem bindings_agree {change : Update} {condition : Expr} {selection : Statement}
    (target : change.table? = some name) (unassigned : change.assignments = [])
    (clause : change.selection = some condition)
    (selects : Statement.Selects (change.target :: change.sources.getD []) condition selection) :
    Agree Eq change.bindings selection.bindings := by
  rw [Update.bindings, target, unassigned, clause]
  simp only [Walk.gather, Walk.pure_bind, List.nil_append, Walk.bind_pure]
  cases found : Relation.ofName? name with
  | some relation =>
    simp only [Walk.require, Walk.pure_bind]
    refine .emit_bind (selects.bindings_agree change.scope_alike fun scope => ?_)
    exact .refl _ fun _ _ => rfl
  | none =>
    obtain ⟨label, rest, tables⟩ := exists_scopeTables_eq_cons target
    have failed : change.scope.outcome = .error (.emptyObjectName "") := by
      rw [change.scope_alike.outcome, tables]
      exact Scope.empty.withTables_unnamed label rest found
    have entered := selects.bindings_agree change.scope_alike fun scope =>
      Agree.refl (condition.bindings scope) fun _ _ => rfl
    rw [Walk.bind_of_error failed] at entered
    obtain rfl := (Relation.ofName?_eq_none_iff name).mp found
    refine ⟨?_, .inr ⟨.emptyObjectName "", rfl, entered.outcome_eq.symm⟩⟩
    rw [← entered.warnings]
    exact (Scope.warnings_eq_nil_of_alike change.scope_alike).symm

end Update

/-- A condition is read in the same way by a DELETE, by an UPDATE without assignments and by a SELECT
from the same tables: for the DELETE these are the tables of its first factor, whatever stands beside
it, and for the UPDATE those of its target with its joins and of its FROM clause, if it has one. -/
theorem Statement.findings_of_condition (condition : Expr) :
    (∀ (deletion : Delete) (factor : Factor) (joins : List Join) (others : List Source),
      deletion.sources = ⟨factor, joins⟩ :: others → deletion.selection = some condition →
      ∀ selection, Statement.Selects [⟨factor, []⟩] condition selection →
        (Statement.delete deletion).findings = selection.findings) ∧
    ∀ change : Update, change.table? ≠ none → change.assignments = [] →
      change.selection = some condition →
      ∀ selection,
        Statement.Selects (change.target :: change.sources.getD []) condition selection →
        (Statement.update change).findings = selection.findings := by
  constructor
  · intro deletion factor joins others items clause selection selects
    exact Statement.findings_of_agree (Delete.bindings_agree items clause selects)
  · intro change table unassigned clause selection selects
    obtain ⟨name, target⟩ := Option.ne_none_iff_exists'.mp table
    exact Statement.findings_of_agree (Update.bindings_agree target unassigned clause selects)

/-- `"x"."a" = $1 AND "y"."b" = :c` -/
def aliasedCondition : Expr :=
  .logical .and (comparedWith [⟨"x", some .double⟩, ⟨"a", some .double⟩] "$1")
    (comparedWith [⟨"y", some .double⟩, ⟨"b", some .double⟩] ":c")

/-- `DELETE FROM "t" AS "x" USING "u" AS "x" WHERE …` -/
def deleteUsing : Delete where
  tables := []
  fromKeyword := true
  sources := [⟨labelled "t" "x", []⟩]
  joined := some [⟨labelled "u" "x", []⟩]
  selection := some aliasedCondition
  closing := []

/-- `UPDATE "t" AS "x" JOIN "u" AS "y" … FROM "v" AS "x" WHERE …` -/
def updateJoined : Update where
  opening := "UPDATE "
  target := ⟨labelled "t" "x", [⟨"JOIN", labelled "u" "y", []⟩]⟩
  assignments := []
  sources := some [⟨labelled "v" "x", []⟩]
  sourcesFirst := false
  selection := some aliasedCondition
  closing := []

/-- An alias that is given twice: a USING list does not take it away, a FROM clause does. -/
theorem Statement.findings_of_condition_aliased :
    ((Statement.delete deleteUsing).findings =
        (Statement.query ⟨[], .select ⟨[], [⟨labelled "t" "x", []⟩], [],
          some aliasedCondition, []⟩, []⟩).findings ∧
      (Statement.update updateJoined).findings =
        (Statement.query ⟨[], .select ⟨[], [⟨labelled "t" "x", [⟨"JOIN", labelled "u" "y", []⟩]⟩,
          ⟨labelled "v" "x", []⟩], [], some aliasedCondition, []⟩, []⟩).findings) ∧
    (Statement.delete deleteUsing).findings.toOption.map (fun found =>
      found.1.entries.map Prod.snd) = some [{ relation := ⟨none, "t"⟩, name := "a" }] ∧
    (Statement.update updateJoined).findings.toOption.map (fun found =>
      found.1.entries.map Prod.snd) = some [{ relation := ⟨none, "v"⟩, name := "a" }] := by
  have agree := Statement.findings_of_condition aliasedCondition
  refine ⟨⟨?_, ?_⟩, rfl, rfl⟩
  · exact agree.1 deleteUsing (labelled "t" "x") [] [] rfl rfl _ (.intro [] [] [] [] [])
  · exact agree.2 updateJoined nofun rfl rfl _ (.intro [] [] [] [] [])

end SqlBinding
