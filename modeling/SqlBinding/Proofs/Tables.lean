import SqlBinding.Proofs.Reach
import SqlBinding.Proofs.Scope

/-! The tables of FROM clauses. A clause lists its tables from left to right, those of joins in
parentheses included, and declares each under its key. A key stands for the last table that has it.
Inside several clauses the innermost that declares a key decides.
-/

namespace SqlBinding

/-- A table of a FROM clause. -/
structure Table where
  name : Name
  label : Option Alias

namespace Table

/-- The name by which columns of a table can be qualified. -/
def key (table : Table) : String := declaredName table.label

def relation? (table : Table) : Option Relation := Relation.ofName? table.name

/-- The entry of a table in a scope. -/
def declaration? (table : Table) : Option (String × Relation) :=
  table.relation?.map fun relation => (table.key, relation)

end Table

mutual

def Factor.tables : Factor → List Table
  | .table name label => [⟨name, label⟩]
  | .call name _ _ label _ => [⟨name, label⟩]
  | .join inner _ => inner.tables
  | .other _ _ => []

def Source.tables : Source → List Table
  | ⟨factor, joins⟩ => factor.tables ++ tablesOfJoins joins

def tablesOfJoins : List Join → List Table
  | [] => []
  | ⟨_, factor, _⟩ :: rest => factor.tables ++ tablesOfJoins rest

end

theorem tablesOfJoins_eq_flatMap (joins : List Join) :
    tablesOfJoins joins = joins.flatMap fun join => join.factor.tables := by
  induction joins with
  | nil => rw [tablesOfJoins, List.flatMap_nil]
  | cons first rest ih =>
    cases first
    rw [tablesOfJoins, ih, List.flatMap_cons]

/-- The tables of a FROM clause from left to right, those of joins in parentheses included. -/
def tablesOf (sources : List Source) : List Table := sources.flatMap Source.tables

/-- What a key stands for in a FROM clause by itself: its last table with that key. -/
def declared? (sources : List Source) (key : String) : Option Relation :=
  ((tablesOf sources).reverse.find? fun table => table.key == key).bind Table.relation?

/-- What a key stands for inside FROM clauses, the outermost first: the innermost that declares the
key decides. -/
def visible? (levels : List (List Source)) (key : String) : Option Relation :=
  levels.reverse.findSome? fun sources => declared? sources key

/-- Every table has a name. -/
def Named (tables : List Table) : Prop := ∀ table ∈ tables, table.name ≠ []

instance (tables : List Table) : Decidable (Named tables) :=
  inferInstanceAs (Decidable (∀ table ∈ tables, table.name ≠ []))

theorem Relation.ofName?_eq_none_iff (name : Name) : Relation.ofName? name = none ↔ name = [] := by
  rw [← List.reverse_eq_nil_iff]
  unfold Relation.ofName?
  split
  case h_1 none => simp [none]
  case h_2 some => simp [some]
  case h_3 some => simp [some]

theorem Table.exists_relation (table : Table) (named : table.name ≠ []) :
    ∃ relation, table.relation? = some relation :=
  Option.ne_none_iff_exists'.mp (mt (Relation.ofName?_eq_none_iff table.name).mp named)

theorem Table.declaration?_eq (table : Table) (found : table.relation? = some relation) :
    table.declaration? = some (table.key, relation) := by
  rw [declaration?, found]
  rfl

theorem declareTable_ok (table : Table) (named : table.name ≠ []) :
    (declareTable table.name table.label).outcome = .ok ([table].filterMap Table.declaration?) := by
  obtain ⟨relation, found⟩ := table.exists_relation named
  have required :
      (Walk.require (.emptyObjectName table.name.render) (Relation.ofName? table.name)).outcome =
      .ok relation := Walk.require_ok_iff.mpr found
  rw [declareTable, Walk.outcome_bind required, Walk.outcome_bind (Walk.outcome_emit _),
    List.filterMap_cons_some (table.declaration?_eq found)]
  rfl

mutual

private theorem Factor.declarations_ok : ∀ factor : Factor, Named factor.tables →
    factor.declarations.outcome = .ok (factor.tables.filterMap Table.declaration?)
  | .table name label, named => by
    rw [Factor.declarations, Factor.tables]
    exact declareTable_ok ⟨name, label⟩ (named _ (by simp [Factor.tables]))
  | .call name _ _ label _, named => by
    rw [Factor.declarations, Factor.tables]
    exact declareTable_ok ⟨name, label⟩ (named _ (by simp [Factor.tables]))
  | .join inner _, named => by
    rw [Factor.tables] at named ⊢
    rw [Factor.declarations]
    exact inner.declarations_ok named
  | .other _ _, _ => by
    rw [Factor.declarations, Factor.tables]
    rfl

private theorem Source.declarations_ok : ∀ source : Source, Named source.tables →
    source.declarations.outcome = .ok (source.tables.filterMap Table.declaration?)
  | ⟨factor, joins⟩, named => by
    rw [Source.tables] at named ⊢
    obtain ⟨first, others⟩ := List.forall_mem_append.mp named
    rw [Source.declarations, Walk.outcome_bind (factor.declarations_ok first),
      Walk.outcome_bind (declarationsOfJoins_ok joins others), List.filterMap_append]
    rfl

private theorem declarationsOfJoins_ok : ∀ joins : List Join, Named (tablesOfJoins joins) →
    (declarationsOfJoins joins).outcome = .ok ((tablesOfJoins joins).filterMap Table.declaration?)
  | [], _ => by
    rw [declarationsOfJoins, tablesOfJoins]
    rfl
  | ⟨_, factor, _⟩ :: rest, named => by
    rw [tablesOfJoins] at named ⊢
    obtain ⟨first, others⟩ := List.forall_mem_append.mp named
    rw [declarationsOfJoins, Walk.outcome_bind (factor.declarations_ok first),
      Walk.outcome_bind (declarationsOfJoins_ok rest others), List.filterMap_append]
    rfl

end

private theorem gather_declarations_ok (sources : List Source) (named : Named (tablesOf sources)) :
    (Walk.gather Source.declarations sources).outcome =
      .ok ((tablesOf sources).filterMap Table.declaration?) := by
  induction sources with
  | nil => rfl
  | cons first rest ih =>
    rw [tablesOf, List.flatMap_cons] at named ⊢
    obtain ⟨own, others⟩ := List.forall_mem_append.mp named
    exact Walk.gather_cons_ok_iff.mpr
      ⟨_, _, first.declarations_ok own, ih others, List.filterMap_append⟩

private theorem valueOf?_entries {tables : List Table} (named : Named tables) (key : String) :
    valueOf? (tables.filterMap Table.declaration?) key =
      (tables.find? fun table => table.key == key).bind Table.relation? := by
  induction tables with
  | nil => rfl
  | cons first rest ih =>
    obtain ⟨here, others⟩ := List.forall_mem_cons.mp named
    obtain ⟨relation, found⟩ := first.exists_relation here
    rw [List.filterMap_cons_some (first.declaration?_eq found), valueOf?_cons, ih others]
    by_cases same : first.key = key <;> simp [same, found]

/-- A FROM clause whose tables are named is put in front of the scope around it. -/
theorem Scope.nested_ok (parent : Option Scope) {sources : List Source}
    (named : Named (tablesOf sources)) :
    ∃ scope, (Scope.nested parent sources).outcome = .ok scope ∧
      ∀ name, scope.get? name =
        (declared? sources name).or ((parent.getD Scope.empty).get? name) := by
  have backwards : Named (tablesOf sources).reverse :=
    fun table member => named table (List.mem_reverse.mp member)
  refine ⟨(parent.getD .empty).merge
    (Scope.empty.declare ((tablesOf sources).filterMap Table.declaration?)), ?_, ?_⟩
  · rw [Scope.nested, Scope.ofSources]
    refine Walk.bind_ok_iff.mpr ⟨_, ?_, rfl⟩
    exact Walk.bind_ok_iff.mpr ⟨_, gather_declarations_ok sources named, rfl⟩
  · intro name
    rw [Scope.get?_merge, Scope.get?_declare, Scope.get?_empty, Option.or_none,
      ← List.filterMap_reverse, valueOf?_entries backwards]
    rfl

theorem visible?_cons (sources : List Source) (levels : List (List Source)) (key : String) :
    visible? (sources :: levels) key = (visible? levels key).or (declared? sources key) := by
  simp [visible?, List.findSome?_append]

/-- Inside FROM clauses a name is looked up level by level, and then in the scope around them. -/
theorem Scope.within_ok (scope : Scope) {levels : List (List Source)}
    (named : ∀ sources ∈ levels, Named (tablesOf sources)) :
    ∃ result, (scope.within levels).outcome = .ok result ∧
      ∀ name, result.get? name = (visible? levels name).or (scope.get? name) := by
  induction levels generalizing scope with
  | nil => exact ⟨scope, rfl, fun name => rfl⟩
  | cons sources levels ih =>
    obtain ⟨here, others⟩ := List.forall_mem_cons.mp named
    obtain ⟨inner, nested, own⟩ := Scope.nested_ok (some scope) here
    obtain ⟨result, entered, look⟩ := ih inner others
    refine ⟨result, Scope.within_cons_ok_iff.mpr ⟨inner, nested, entered⟩, fun name => ?_⟩
    rw [look, own, visible?_cons, Option.or_assoc]
    rfl

/-- Some of the FROM clauses declares a key. -/
def Declares (levels : List (List Source)) (key : String) : Prop :=
  ∃ sources ∈ levels, ∃ table ∈ tablesOf sources, table.key = key

theorem exists_declared?_iff {sources : List Source} (named : Named (tablesOf sources))
    (key : String) :
    (∃ relation, declared? sources key = some relation) ↔
      ∃ table ∈ tablesOf sources, table.key = key := by
  constructor
  · intro given
    obtain ⟨relation, found⟩ := given
    obtain ⟨table, last, -⟩ := Option.bind_eq_some_iff.mp found
    exact ⟨table, List.mem_reverse.mp (List.mem_of_find?_eq_some last), by
      simpa using List.find?_some last⟩
  · intro given
    obtain ⟨table, member, same⟩ := given
    have present : ((tablesOf sources).reverse.find? fun table => table.key == key).isSome :=
      List.find?_isSome.mpr ⟨table, List.mem_reverse.mpr member, beq_iff_eq.mpr same⟩
    obtain ⟨last, found⟩ := Option.isSome_iff_exists.mp present
    have listed := List.mem_reverse.mp (List.mem_of_find?_eq_some found)
    obtain ⟨relation, known⟩ := last.exists_relation (named last listed)
    exact ⟨relation, by rw [declared?, found]; exact known⟩

theorem exists_visible?_iff {levels : List (List Source)}
    (named : ∀ sources ∈ levels, Named (tablesOf sources)) (key : String) :
    (∃ relation, visible? levels key = some relation) ↔ Declares levels key := by
  rw [← Option.isSome_iff_exists, visible?, List.findSome?_isSome_iff]
  simp only [List.mem_reverse, Option.isSome_iff_exists]
  constructor
  · intro given
    obtain ⟨sources, member, found⟩ := given
    exact ⟨sources, member, (exists_declared?_iff (named sources member) key).mp found⟩
  · intro given
    obtain ⟨sources, member, found⟩ := given
    exact ⟨sources, member, (exists_declared?_iff (named sources member) key).mpr found⟩

/-- A table with an alias. -/
def labelled (name label : String) : Factor :=
  .table [⟨name, some .double⟩] (some ⟨⟨label, some .double⟩, []⟩)

end SqlBinding
