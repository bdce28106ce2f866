import Mathlib.Data.List.Perm.Subperm
import SqlBinding.Proofs.Leaves
import SqlBinding.Proofs.Run

/-! The order of a scope's entries. Scopes that give the same relation to every name may list their
names in any order: no walk can tell them apart, not even by its events. So the tables of a FROM clause
may change places as long as no two of them have the same key.
-/

namespace SqlBinding

namespace Scope

/-- Two scopes that give the same relation to every name. -/
def Equivalent (first second : Scope) : Prop := ∀ name, first.get? name = second.get? name

theorem get?_eq_some_iff (scope : Scope) (name : String) (relation : Relation) :
    scope.get? name = some relation ↔ (name, relation) ∈ scope.entries :=
  valueOf?_eq_some_iff scope.distinct name relation

theorem nodup_entries (scope : Scope) : scope.entries.Nodup := by
  have distinct := List.pairwise_map.mp scope.distinct
  exact distinct.imp fun different same => different (congrArg Prod.fst same)

theorem Equivalent.entries_perm {first second : Scope} (equivalent : Equivalent first second) :
    first.entries.Perm second.entries := by
  apply (List.perm_ext_iff_of_nodup first.nodup_entries second.nodup_entries).mpr
  rintro ⟨name, relation⟩
  rw [← get?_eq_some_iff, ← get?_eq_some_iff, equivalent name]

/-- The comparison of scopes by size and entries finds out whether they are equivalent. -/
theorem sameNames_iff (first second : Scope) :
    first.sameNames second = true ↔ Equivalent first second := by
  simp only [sameNames, Bool.and_eq_true, beq_iff_eq, List.all_eq_true]
  constructor
  · rintro ⟨sizes, listed⟩
    have inside : first.entries ⊆ second.entries := by
      rintro ⟨name, relation⟩ member
      exact (second.get?_eq_some_iff name relation).mp (listed _ member)
    have permuted : first.entries.Perm second.entries :=
      (List.subperm_of_subset first.nodup_entries inside).perm_of_length_le (Nat.le_of_eq sizes.symm)
    intro name
    ext relation
    rw [get?_eq_some_iff, get?_eq_some_iff, permuted.mem_iff]
  · intro equivalent
    refine ⟨equivalent.entries_perm.length_eq, ?_⟩
    rintro ⟨name, relation⟩ member
    rw [← equivalent name]
    exact (first.get?_eq_some_iff name relation).mpr member

namespace Equivalent
variable {first second : Scope}

theorem size_eq (equivalent : Equivalent first second) : first.size = second.size :=
  equivalent.entries_perm.length_eq

theorem merge (equivalent : Equivalent first second) (other : Scope) :
    Equivalent (first.merge other) (second.merge other) := by
  intro name
  rw [get?_merge, get?_merge, equivalent name]

/-- Which of several entries comes first does not count, and of one entry there is no order. -/
theorem unqualified_eq (equivalent : Equivalent first second) :
    first.unqualified = second.unqualified := by
  have only (name : String) : first.Only name ↔ second.Only name := by
    simp only [Only, equivalent _]
  by_cases single : ∃ name, first.Only name
  · obtain ⟨name, alone⟩ := single
    obtain ⟨relation, here⟩ := (alone name).mpr rfl
    have there : second.get? name = some relation := (equivalent name).symm.trans here
    rw [unqualified_of_only alone here, unqualified_of_only ((only name).mp alone) there]
  · have several := not_exists.mp single
    have alsoSeveral (name : String) : ¬ second.Only name :=
      fun alone => several name ((only name).mpr alone)
    rw [unqualified_of_not_only several, unqualified_of_not_only alsoSeveral, equivalent ""]

theorem column?_eq (equivalent : Equivalent first second) (parts : Name) :
    first.column? parts = second.column? parts := by
  match parts with
  | [] => rfl
  | [column] => simp only [column?, equivalent.unqualified_eq]
  | qualifier :: column :: more => simp only [column?, qualified, equivalent _]

theorem resolve_eq (equivalent : Equivalent first second) : first.resolve = second.resolve := by
  funext parts
  unfold resolve
  rw [equivalent.column?_eq]

end Equivalent

end Scope

open Scope (Equivalent)

theorem comparisonBindings_of_equivalent {first second : Scope} (equivalent : Equivalent first second)
    (text : String) (left right : Operand) :
    comparisonBindings first text left right = comparisonBindings second text left right := by
  unfold comparisonBindings
  rw [equivalent.resolve_eq]

/-- In equivalent scopes a predicate has the same walk, down to the events. -/
theorem Expr.bindings_of_equivalent {first second : Scope} (equivalent : Equivalent first second)
    (expr : Expr) : expr.bindings first = expr.bindings second := by
  induction expr using Expr.walk_induction generalizing first second with
  | nested inner ih =>
    rw [Expr.bindings, Expr.bindings]
    exact ih equivalent
  | negation operand ih =>
    rw [Expr.bindings, Expr.bindings]
    exact ih equivalent
  | logical connective left right ihLeft ihRight =>
    rw [Expr.bindings, Expr.bindings, ihLeft equivalent, ihRight equivalent]
  | binary op left right ih =>
    by_cases operand : ∃ query, right.bare = .subquery query
    · obtain ⟨query, operand⟩ := operand
      rw [bindings_of_subquery operand, bindings_of_subquery operand]
      cases form : query.core with
      | query inner => exact absurd form (query.core_ne_query inner)
      | select block =>
        have inside (own : Scope) :
            (do Walk.emit (.select (first.merge own).size true)
                selectionBindings block.selection (first.merge own)) =
            (do Walk.emit (.select (second.merge own).size true)
                selectionBindings block.selection (second.merge own)) := by
          have merged := equivalent.merge own
          rw [merged.size_eq]
          cases clause : block.selection with
          | none => rw [selectionBindings, selectionBindings]
          | some condition =>
            rw [selectionBindings, selectionBindings,
              ih query block condition ⟨operand, form, clause⟩ merged]
        simp only [bindings_of_select, Scope.nested, Walk.bind_assoc, Walk.pure_bind, Option.getD_some,
          Option.isSome_some, inside]
      | values rows marked => rw [Body.bindings, Body.bindings]
      | phrase parts => rw [Body.bindings, Body.bindings]
    · have apart := not_exists.mp operand
      rw [bindings_of_comparison apart, bindings_of_comparison apart]
      exact comparisonBindings_of_equivalent equivalent _ _ _
  | inList negated needle items =>
    rw [Expr.bindings, Expr.bindings, equivalent.resolve_eq]
  | isNull | column | literal | subquery | phrase => rw [Expr.bindings, Expr.bindings]

/-- Declarations of different names may be made in any order. -/
theorem Scope.declare_equivalent_of_perm (scope : Scope)
    {declarations others : List (String × Relation)}
    (permuted : declarations.Perm others) (distinct : (declarations.map Prod.fst).Nodup) :
    Equivalent (scope.declare declarations) (scope.declare others) := by
  have alsoDistinct : (others.map Prod.fst).Nodup := (permuted.map Prod.fst).nodup_iff.mp distinct
  intro name
  have same : valueOf? declarations name = valueOf? others name := by
    ext relation
    rw [valueOf?_eq_some_iff distinct, valueOf?_eq_some_iff alsoDistinct, permuted.mem_iff]
  rw [Scope.get?_declare, Scope.get?_declare, valueOf?_reverse distinct, valueOf?_reverse alsoDistinct,
    same]

theorem names_sublist_keys (tables : List Table) :
    ((tables.filterMap Table.declaration?).map Prod.fst).Sublist (tables.map Table.key) := by
  induction tables with
  | nil => exact .slnil
  | cons first rest ih =>
    cases declared : first.declaration? with
    | none =>
      rw [List.filterMap_cons_none declared]
      exact ih.cons first.key
    | some declaration =>
      obtain ⟨relation, -, rfl⟩ := Option.map_eq_some_iff.mp declared
      rw [List.filterMap_cons_some declared]
      exact ih.cons_cons first.key

/-- Nothing in a FROM clause is reported. -/
theorem Scope.warnings_withTables_eq_nil (scope : Scope) (tables : List Table) :
    (scope.withTables tables).warnings = [] := by
  have table (table : Table) : (declareTable table.name table.label).warnings = [] := by
    unfold declareTable
    cases Relation.ofName? table.name with
    | none => rfl
    | some relation => rfl
  rw [Scope.withTables, Walk.warnings_bind_pure]
  exact Walk.warnings_gather_eq_nil table tables

/-- However the scope of tables is built, nothing is reported. -/
theorem Scope.warnings_eq_nil_of_alike {entered : Walk Scope} {scope : Scope} {tables : List Table}
    (built : Walk.Alike entered (scope.withTables tables)) : entered.warnings = [] := by
  apply List.map_eq_nil_iff.mp
  exact built.kinds.trans
    (congrArg (List.map Warning.kind) (scope.warnings_withTables_eq_nil tables))

/-- A FROM clause whose tables have names is entered with all of them declared. -/
theorem Scope.nested_declare (parent : Option Scope) {sources : List Source}
    (named : Named (tablesOf sources)) :
    (Scope.nested parent sources).outcome =
      .ok ((parent.getD .empty).declare ((tablesOf sources).filterMap Table.declaration?)) := by
  obtain ⟨scope, entered, -⟩ := Scope.nested_ok parent named
  rw [entered, Scope.withTables_ok ((nested_alike parent sources).outcome.symm.trans entered)]

/-- Tables with names and different keys make equivalent scopes in any order. -/
theorem Scope.nested_agree_of_perm (parent : Option Scope) {sources others : List Source}
    (permuted : (tablesOf sources).Perm (tablesOf others)) (named : Named (tablesOf sources))
    (distinct : ((tablesOf sources).map Table.key).Nodup) :
    Walk.Agree Equivalent (Scope.nested parent sources) (Scope.nested parent others) := by
  have alsoNamed : Named (tablesOf others) :=
    fun table member => named table (permuted.mem_iff.mpr member)
  have names := (names_sublist_keys (tablesOf sources)).nodup distinct
  have first := Scope.nested_declare parent named
  have second := Scope.nested_declare parent alsoNamed
  refine ⟨?_, .inl ⟨_, _, first, second, ?_⟩⟩
  · rw [Scope.warnings_eq_nil_of_alike (nested_alike parent sources),
      Scope.warnings_eq_nil_of_alike (nested_alike parent others)]
  · exact Scope.declare_equivalent_of_perm _ (permuted.filterMap _) names

theorem Select.bindings_agree_of_perm (block : Select) {sources : List Source} (parent : Option Scope)
    (permuted : (tablesOf sources).Perm (tablesOf block.sources)) (named : Named (tablesOf sources))
    (distinct : ((tablesOf sources).map Table.key).Nodup) :
    Walk.Agree Eq ({ block with sources }.bindings parent) (block.bindings parent) := by
  cases block with
  | mk projection own views selection grouping =>
    rw [Select.bindings, Select.bindings]
    apply (Scope.nested_agree_of_perm parent permuted named distinct).bind
    intro scope other equivalent
    have announced : Walk.Agree Eq (Walk.emit (.select scope.size parent.isSome))
        (Walk.emit (.select other.size parent.isSome)) := .emit _ _
    apply announced.bind
    intro _ _ _
    cases selection with
    | none =>
      rw [selectionBindings, selectionBindings]
      exact .refl _ fun _ _ => rfl
    | some condition =>
      rw [selectionBindings, selectionBindings, condition.bindings_of_equivalent equivalent]
      exact .refl _ fun _ _ => rfl

/-- The order of entries does not show: a predicate has the same walk in scopes with the same names,
and a SELECT has the same bindings, warnings and errors for every order of its tables, if they have
names and different keys. -/
theorem Scope.bindings_of_sameNames :
    (∀ first second : Scope, first.sameNames second = true →
      ∀ expr : Expr, expr.bindings first = expr.bindings second) ∧
    ∀ (block : Select) (sources : List Source) (parent : Option Scope),
      (tablesOf sources).Perm (tablesOf block.sources) → Named (tablesOf block.sources) →
      ((tablesOf block.sources).map Table.key).Nodup →
      ({ block with sources }.bindings parent).outcome = (block.bindings parent).outcome ∧
        ({ block with sources }.bindings parent).warnings = (block.bindings parent).warnings := by
  constructor
  · intro first second same expr
    exact expr.bindings_of_equivalent ((Scope.sameNames_iff first second).mp same)
  · intro block sources parent permuted named distinct
    have alsoNamed : Named (tablesOf sources) :=
      fun table member => named table (permuted.mem_iff.mp member)
    have alsoDistinct := (permuted.map Table.key).nodup_iff.mpr distinct
    have agree := block.bindings_agree_of_perm parent permuted alsoNamed alsoDistinct
    exact ⟨agree.outcome_eq, agree.warnings⟩

/-- The items of a FROM clause take their tables along when they change places. -/
theorem tablesOf_perm_of_perm {sources others : List Source} (permuted : sources.Perm others) :
    (tablesOf sources).Perm (tablesOf others) :=
  permuted.flatMap_right Source.tables

/-- So do the joins of an item. -/
theorem Source.tables_perm_of_perm (factor : Factor) {joins others : List Join}
    (permuted : joins.Perm others) :
    (Source.tables ⟨factor, joins⟩).Perm (Source.tables ⟨factor, others⟩) := by
  rw [Source.tables, Source.tables, tablesOfJoins_eq_flatMap, tablesOfJoins_eq_flatMap]
  exact (permuted.flatMap_right _).append_left _

/-- `"y"."a" = $1 AND "b" = (SELECT … FROM "w" AS "x" WHERE "c" = $2)` -/
def joinedCondition : Expr :=
  .logical .and (comparedWith [⟨"y", some .double⟩, ⟨"a", some .double⟩] "$1")
    (.binary (.symbol "=") (.column [⟨"b", some .double⟩])
      (.subquery ⟨[], .select ⟨[], [⟨labelled "w" "x", []⟩], [],
        some (comparedWith [⟨"c", some .double⟩] "$2"), []⟩, []⟩))

/-- `FROM "t" AS "x" JOIN "u" AS "y" JOIN "v" AS "z", "s"` -/
def joinedClause : List Source :=
  [⟨labelled "t" "x", [⟨"JOIN", labelled "u" "y", []⟩, ⟨"JOIN", labelled "v" "z", []⟩]⟩,
    ⟨.table [⟨"s", some .double⟩] none, []⟩]

/-- `FROM "s", "t" AS "x" JOIN "v" AS "z" JOIN "u" AS "y"` -/
def reorderedClause : List Source :=
  [⟨.table [⟨"s", some .double⟩] none, []⟩,
    ⟨labelled "t" "x", [⟨"JOIN", labelled "v" "z", []⟩, ⟨"JOIN", labelled "u" "y", []⟩]⟩]

/-- Names in another order, and a FROM clause whose items and joins have changed places. -/
theorem Scope.bindings_of_sameNames_reordered :
    (∃ first second : Scope, first.entries ≠ second.entries ∧ first.sameNames second = true ∧
      joinedCondition.bindings first = joinedCondition.bindings second) ∧
    (Select.bindings ⟨[], reorderedClause, [], some joinedCondition, []⟩ none).outcome =
      (Select.bindings ⟨[], joinedClause, [], some joinedCondition, []⟩ none).outcome := by
  constructor
  · refine ⟨Scope.empty.declare [("y", ⟨none, "t"⟩), ("", ⟨none, "u"⟩)],
      Scope.empty.declare [("", ⟨none, "u"⟩), ("y", ⟨none, "t"⟩)], by decide, by decide, ?_⟩
    exact Scope.bindings_of_sameNames.1 _ _ (by decide) joinedCondition
  · have joins : (tablesOf reorderedClause).Perm (tablesOf joinedClause.reverse) :=
      ((Source.tables_perm_of_perm _ (.swap _ _ [])).append_right []).append_left _
    have items : (tablesOf joinedClause.reverse).Perm (tablesOf joinedClause) :=
      tablesOf_perm_of_perm (.swap _ _ [])
    exact (Scope.bindings_of_sameNames.2 ⟨[], joinedClause, [], some joinedCondition, []⟩
      reorderedClause none (joins.trans items) (by decide) (by decide)).1

end SqlBinding
