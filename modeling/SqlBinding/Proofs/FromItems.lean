import Mathlib.Data.List.Basic
import SqlBinding.Proofs.Run
import SqlBinding.Syntax.Forms

/-! What the items of a FROM clause declare. Joins, also those in parentheses, are taken apart from
left to right. Derived tables and the like declare nothing, but a function that is called for a table
declares its name as if it were a table. So a call under a key of its own leaves an entry that no table
accounts for.
-/

namespace SqlBinding

mutual

/-- The items of a join in parentheses; any other factor is an item itself. -/
def Factor.items : Factor → List Factor
  | .join inner _ => inner.items
  | .table name label => [.table name label]
  | .call name arguments numbering label closing => [.call name arguments numbering label closing]
  | .other parts label => [.other parts label]

def Source.items : Source → List Factor
  | ⟨factor, joins⟩ => factor.items ++ itemsOfJoins joins

def itemsOfJoins : List Join → List Factor
  | [] => []
  | ⟨_, factor, _⟩ :: rest => factor.items ++ itemsOfJoins rest

end

/-- The items of a FROM clause from left to right. -/
def itemsOf (sources : List Source) : List Factor := sources.flatMap Source.items

/-- The name and the label of an item that starts with a name. -/
def Factor.table? : Factor → Option Table
  | .table name label => some ⟨name, label⟩
  | .call name _ _ label _ => some ⟨name, label⟩
  | .join _ _ => none
  | .other _ _ => none

/-- Whether an item has a list of arguments behind its name. -/
def Factor.isCall : Factor → Bool
  | .call _ arguments _ _ _ => arguments.isSome
  | _ => false

/-- The name and the label of an item that has no list of arguments. -/
def Factor.plainTable? (item : Factor) : Option Table :=
  if item.isCall then none else item.table?

/-- The tables of a FROM clause from left to right, without calls. -/
def plainTablesOf (sources : List Source) : List Table :=
  (itemsOf sources).filterMap Factor.plainTable?

mutual

theorem Factor.tables_eq_items : ∀ factor : Factor,
    factor.tables = factor.items.filterMap Factor.table?
  | .join inner _ => by
    rw [Factor.tables, Factor.items]
    exact inner.tables_eq_items
  | .table name label => by
    rw [Factor.tables, Factor.items]
    rfl
  | .call name arguments numbering label closing => by
    rw [Factor.tables, Factor.items]
    rfl
  | .other parts label => by
    rw [Factor.tables, Factor.items]
    rfl

theorem Source.tables_eq_items : ∀ source : Source,
    source.tables = source.items.filterMap Factor.table?
  | ⟨factor, joins⟩ => by
    rw [Source.tables, Source.items, List.filterMap_append, factor.tables_eq_items,
      tablesOfJoins_eq_items joins]

theorem tablesOfJoins_eq_items : ∀ joins : List Join,
    tablesOfJoins joins = (itemsOfJoins joins).filterMap Factor.table?
  | [] => by
    rw [tablesOfJoins, itemsOfJoins]
    rfl
  | ⟨_, factor, _⟩ :: rest => by
    rw [tablesOfJoins, itemsOfJoins, List.filterMap_append, factor.tables_eq_items,
      tablesOfJoins_eq_items rest]

end

theorem tablesOf_eq_items (sources : List Source) :
    tablesOf sources = (itemsOf sources).filterMap Factor.table? := by
  rw [tablesOf, itemsOf, List.filterMap_flatMap]
  exact List.flatMap_congr fun source _ => source.tables_eq_items

/-- The scope of a FROM clause, in the order of its items. -/
theorem Scope.ofSources_eq_items (sources : List Source) :
    (Scope.ofSources sources).outcome =
      (Scope.empty.withTables ((itemsOf sources).filterMap Factor.table?)).outcome := by
  rw [← tablesOf_eq_items]
  exact (ofSources_alike sources).outcome

theorem plainTablesOf_eq_of_no_calls {sources : List Source}
    (plain : ∀ item ∈ itemsOf sources, item.isCall = false) :
    plainTablesOf sources = (itemsOf sources).filterMap Factor.table? := by
  apply List.filterMap_congr
  intro item member
  simp [Factor.plainTable?, plain item member]

theorem Factor.exists_table_of_isCall {item : Factor} (called : item.isCall = true) :
    ∃ table, item.table? = some table := by
  cases item with
  | call name arguments numbering label closing => exact ⟨_, rfl⟩
  | _ => cases called

/-- The scope of a FROM clause holds its plain tables and its calls, in their order and under their
keys, and nothing else. Without calls that leaves the plain tables. A call always has an entry for its
key; if no plain table has that key, the plain tables by themselves make another scope. -/
theorem Scope.ofSources_tables_and_calls (sources : List Source) :
    (Scope.ofSources sources).outcome =
        (Scope.empty.withTables ((itemsOf sources).filterMap Factor.table?)).outcome ∧
      ((∀ item ∈ itemsOf sources, item.isCall = false) →
        (Scope.ofSources sources).outcome =
          (Scope.empty.withTables (plainTablesOf sources)).outcome) ∧
      ∀ scope, (Scope.ofSources sources).outcome = .ok scope →
        ∀ item ∈ itemsOf sources, item.isCall = true →
          ∃ table, item.table? = some table ∧
            (∃ relation, scope.get? table.key = some relation) ∧
            ((∀ plain ∈ plainTablesOf sources, plain.key ≠ table.key) →
              (Scope.empty.withTables (plainTablesOf sources)).outcome ≠ .ok scope) := by
  have built := Scope.ofSources_eq_items sources
  refine ⟨built, ?_, ?_⟩
  · intro plain
    rw [plainTablesOf_eq_of_no_calls plain]
    exact built
  · intro scope entered item member called
    rw [built] at entered
    obtain ⟨table, named⟩ := Factor.exists_table_of_isCall called
    have listed : table ∈ (itemsOf sources).filterMap Factor.table? :=
      List.mem_filterMap.mpr ⟨item, member, named⟩
    have declared := (Scope.exists_get?_iff_of_withTables entered table.key).mpr ⟨table, listed, rfl⟩
    refine ⟨table, named, declared, ?_⟩
    intro apart same
    obtain ⟨plain, other, key⟩ := (Scope.exists_get?_iff_of_withTables same table.key).mp declared
    exact apart plain other key

/-- `f(1)`, with or without a label -/
def calledOnce (label : Option Alias) : Factor :=
  .call [⟨"f", none⟩] (some [.expr (.literal (.number "1" false))]) "" label []

/-- `FROM "t" AS "x" JOIN ("u" JOIN f(1) AS "y"), UNNEST() AS "z"` -/
def mixedClause : List Source :=
  [⟨.table [⟨"t", some .double⟩] (some ⟨⟨"x", some .double⟩, []⟩),
      [⟨"JOIN", .join ⟨.table [⟨"u", some .double⟩] none,
        [⟨"JOIN", calledOnce (some ⟨⟨"y", some .double⟩, []⟩), []⟩]⟩ none, []⟩]⟩,
    ⟨.unnest [] "" (some ⟨⟨"z", some .double⟩, []⟩), []⟩]

/-- A call deep in a join is declared under its label, which no plain table has. -/
theorem Scope.ofSources_tables_and_calls_joined :
    ∃ scope, (Scope.ofSources mixedClause).outcome = .ok scope ∧
      (∃ relation, scope.get? "y" = some relation) ∧
      (Scope.empty.withTables (plainTablesOf mixedClause)).outcome ≠ .ok scope := by
  refine ⟨_, rfl, ?_⟩
  obtain ⟨table, named, declared, apart⟩ := (Scope.ofSources_tables_and_calls mixedClause).2.2 _ rfl
    (calledOnce (some ⟨⟨"y", some .double⟩, []⟩)) (.tail _ (.tail _ (.head _))) rfl
  obtain rfl := Option.some.inj named
  exact ⟨declared, apart (by decide)⟩

/-- A call alone is declared, although there is no plain table. -/
theorem Scope.ofSources_call_declared :
    plainTablesOf [⟨calledOnce none, []⟩] = [] ∧
      (Scope.ofSources [⟨calledOnce none, []⟩]).outcome.map Scope.entries =
        .ok [("", ⟨none, "f"⟩)] ∧
      (Scope.ofSources [⟨calledOnce none, []⟩]).outcome ≠
        (Scope.empty.withTables (plainTablesOf [⟨calledOnce none, []⟩])).outcome := by
  refine ⟨rfl, rfl, ?_⟩
  intro same
  have entries := congrArg (Except.map Scope.entries) same
  cases entries

end SqlBinding
