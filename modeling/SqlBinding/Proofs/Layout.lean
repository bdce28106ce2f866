import Mathlib.Data.Finset.Card
import Mathlib.Data.List.Induction
import SqlBinding.Proofs.EntryOrder

namespace SqlBinding

namespace Scope

/-- The entries of a scope, told by the declarations that it is made from: each name stands once, in
the order in which the names first appear, with the relation that it is declared with last. -/
structure Lists (scope : Scope) (declarations : List (String × Relation)) : Prop where
  names : scope.entries.map Prod.fst = (declarations.map Prod.fst).eraseDups
  mem_iff : ∀ entry, entry ∈ scope.entries ↔
    ∃ before after, declarations = before ++ entry :: after ∧ entry.1 ∉ after.map Prod.fst
  size_eq : scope.size = (declarations.map Prod.fst).toFinset.card

/-- In an empty scope the names line up as they first appear. -/
theorem names_declare_empty (declarations : List (String × Relation)) :
    (empty.declare declarations).entries.map Prod.fst =
      (declarations.map Prod.fst).eraseDups := by
  induction declarations using List.reverseRecOn with
  | nil => rfl
  | append_singleton earlier last ih =>
    have inserted : (empty.declare (earlier ++ [last])).entries =
        upsert last.1 last.2 (empty.declare earlier).entries :=
      congrArg entries (declare_append empty earlier [last])
    rw [inserted, names_upsert, ih, List.map_append, List.eraseDups_append]
    by_cases known : last.1 ∈ earlier.map Prod.fst
    · simp [List.removeAll, known]
    · simp [List.removeAll, known, List.eraseDups_cons]

theorem lists_declare_empty (declarations : List (String × Relation)) :
    (empty.declare declarations).Lists declarations := by
  have names := names_declare_empty declarations
  refine ⟨names, ?_, ?_⟩
  · intro entry
    rw [← valueOf?_reverse_eq_some_iff, ← get?_eq_some_iff, get?_declare, get?_empty, Option.or_none]
  · have distinct := (empty.declare declarations).distinct
    have same : ((empty.declare declarations).entries.map Prod.fst).toFinset =
        (declarations.map Prod.fst).toFinset := by
      ext name
      rw [names, List.mem_toFinset, List.mem_toFinset, List.mem_eraseDups]
    rw [← same, List.toFinset_card_of_nodup distinct, List.length_map, size]

end Scope

/-- A table without a name stops the declarations, whatever stands before it. -/
private theorem declareTables_of_unnamed {tables : List Table}
    (unnamed : ∃ table ∈ tables, table.name = []) :
    (declareTables tables).outcome = .error (.emptyObjectName "") := by
  induction tables with
  | nil =>
    obtain ⟨_, member, -⟩ := unnamed
    cases member
  | cons first rest ih =>
    rw [declareTables, Walk.gather]
    by_cases here : first.name = []
    · rw [declareTable, here]
      rfl
    · have later : ∃ table ∈ rest, table.name = [] := by simpa [here] using unnamed
      rw [Walk.outcome_bind (declareTable_ok first here)]
      exact Walk.bind_error_iff.mpr (.inl (ih later))

namespace Scope

/-- Without a scope around it a FROM clause makes its own scope. -/
theorem nested_none (sources : List Source) : nested none sources = ofSources sources := by
  have merged : (fun own => (pure (empty.merge own) : Walk Scope)) = pure := by
    funext own
    rw [empty_merge]
  exact (congrArg (ofSources sources >>= ·) merged).trans (Walk.bind_pure _)

theorem ofSources_of_named {sources : List Source} (named : Named (tablesOf sources)) :
    (ofSources sources).outcome =
      .ok (empty.declare ((tablesOf sources).filterMap Table.declaration?)) := by
  rw [← nested_none]
  exact nested_declare none named

theorem ofSources_of_unnamed {sources : List Source}
    (unnamed : ∃ table ∈ tablesOf sources, table.name = []) :
    (ofSources sources).outcome = .error (.emptyObjectName "") := by
  rw [(ofSources_alike sources).outcome, withTables,
    Walk.bind_of_error (declareTables_of_unnamed unnamed)]

/-- Only a table without a name can go wrong, and it always does. -/
theorem ofSources_error_iff {sources : List Source} {cause : Malformed} :
    (ofSources sources).outcome = .error cause ↔
      cause = .emptyObjectName "" ∧ ∃ table ∈ tablesOf sources, table.name = [] := by
  by_cases named : Named (tablesOf sources)
  · have none : ¬ ∃ table ∈ tablesOf sources, table.name = [] := by
      intro given
      obtain ⟨table, member, unnamed⟩ := given
      exact named table member unnamed
    simp [ofSources_of_named named, none]
  · have unnamed : ∃ table ∈ tablesOf sources, table.name = [] := by simpa [Named] using named
    simp [ofSources_of_unnamed unnamed, unnamed, eq_comm]

/-- Tables with names have one declaration each. -/
private theorem map_some_declarations {tables : List Table} (named : Named tables) :
    (tables.filterMap Table.declaration?).map some = tables.map Table.declaration? := by
  induction tables with
  | nil => rfl
  | cons first rest ih =>
    obtain ⟨here, others⟩ := List.forall_mem_cons.mp named
    obtain ⟨relation, found⟩ := first.exists_relation here
    have declared := first.declaration?_eq found
    rw [List.filterMap_cons_some declared, List.map_cons, List.map_cons, ih others, declared]

/-- A FROM clause makes a scope unless one of its tables has no name. The declarations of its tables,
from left to right and with joins in parentheses opened in place, are then all there, and the scope
lists them: each key at the place of its first table, with the relation of its last one. -/
theorem ofSources_lists (sources : List Source) :
    (∀ cause, (ofSources sources).outcome = .error cause ↔
      cause = .emptyObjectName "" ∧ ∃ table ∈ tablesOf sources, table.name = []) ∧
    ∀ scope, (ofSources sources).outcome = .ok scope →
      ∃ declarations, declarations.map some = (tablesOf sources).map Table.declaration? ∧
        scope.Lists declarations := by
  refine ⟨fun cause => ofSources_error_iff, ?_⟩
  intro scope made
  have named : Named (tablesOf sources) := by
    intro table member unnamed
    cases made.symm.trans (ofSources_of_unnamed ⟨table, member, unnamed⟩)
  obtain rfl := Except.ok.inj (made.symm.trans (ofSources_of_named named))
  exact ⟨_, map_some_declarations named, lists_declare_empty _⟩

/-- `FROM "a" AS "x" JOIN ("b" JOIN "s"."c" AS "x"), "d"` -/
def collidingClause : List Source :=
  [⟨.table [⟨"a", some .double⟩] (some ⟨⟨"x", some .double⟩, []⟩),
      [⟨"JOIN", .join ⟨.table [⟨"b", some .double⟩] none,
        [⟨"JOIN", .table [⟨"s", some .double⟩, ⟨"c", some .double⟩]
          (some ⟨⟨"x", some .double⟩, []⟩), []⟩]⟩ none, []⟩]⟩,
    ⟨.table [⟨"d", some .double⟩] none, []⟩]

/-- Four tables under two keys make two entries, in the order of the first two tables and with the
relations of the last two. -/
theorem ofSources_lists_colliding :
    ∃ scope, (ofSources collidingClause).outcome = .ok scope ∧
      scope.Lists [("x", ⟨none, "a"⟩), ("", ⟨none, "b"⟩), ("x", ⟨some "s", "c"⟩), ("", ⟨none, "d"⟩)] ∧
      scope.entries = [("x", ⟨some "s", "c"⟩), ("", ⟨none, "d"⟩)] := by
  refine ⟨_, rfl, ?_, rfl⟩
  obtain ⟨declarations, listed, lists⟩ := (ofSources_lists collidingClause).2 _ rfl
  have given : declarations =
      [("x", ⟨none, "a"⟩), ("", ⟨none, "b"⟩), ("x", ⟨some "s", "c"⟩), ("", ⟨none, "d"⟩)] :=
    List.map_injective_iff.mpr (Option.some_injective _) listed
  exact given ▸ lists

end Scope
end SqlBinding
