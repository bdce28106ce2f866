import SqlBinding.Proofs.Layout

namespace SqlBinding.Scope

/-- Merging scopes that are built apart is declaring one behind the other. -/
theorem merge_declare_empty (scope : Scope) (declarations : List (String × Relation)) :
    scope.merge (empty.declare declarations) = scope.declare declarations := by
  rw [merge_declare, merge_empty]

/-- The scope of a clause cut in two, with all that is told on the way. -/
theorem ofSources_append (sources others : List Source) :
    ofSources (sources ++ others) = (do
      let first ← ofSources sources
      let second ← ofSources others
      return first.merge second) := by
  unfold ofSources
  rw [Walk.gather_append]
  simp only [Walk.bind_assoc, Walk.pure_bind, merge_declare_empty, declare_append]

theorem nested_append (parent : Option Scope) (sources others : List Source) :
    nested parent (sources ++ others) = (do
      let outer ← nested parent sources
      nested (some outer) others) := by
  unfold nested
  rw [ofSources_append]
  simp only [Walk.bind_assoc, Walk.pure_bind, Option.getD_some, merge_assoc]

/-- Either half of a clause can go wrong, and both would go wrong in the same way. -/
theorem ofSources_append_error_iff {sources others : List Source} {cause : Malformed} :
    (ofSources (sources ++ others)).outcome = .error cause ↔
      (ofSources sources).outcome = .error cause ∨ (ofSources others).outcome = .error cause := by
  simp only [ofSources_error_iff, tablesOf, List.flatMap_append, List.mem_append, or_and_right,
    exists_or, and_or_left]

/-- Scopes under merging are a monoid in which every scope is idempotent, and FROM clauses map into it
homomorphically: a clause that is a concatenation makes the merged scope and fails as one of its parts
does. Clauses inside each other make the scope of one clause. Scopes are equal if their entries are,
in their order; the walks that build them are equal also in what they tell. -/
theorem merge_laws (first second third : Scope) (parent : Option Scope) (sources others : List Source) :
    (first.merge second).merge third = first.merge (second.merge third) ∧
    first.merge empty = first ∧ empty.merge first = first ∧ first.merge first = first ∧
    ofSources (sources ++ others) = (do
      let front ← ofSources sources
      let back ← ofSources others
      return front.merge back) ∧
    (∀ cause, (ofSources (sources ++ others)).outcome = .error cause ↔
      (ofSources sources).outcome = .error cause ∨ (ofSources others).outcome = .error cause) ∧
    nested none sources = ofSources sources ∧
    nested parent (sources ++ others) = (do
      let outer ← nested parent sources
      nested (some outer) others) := by
  refine ⟨merge_assoc first second third, merge_empty first, empty_merge first, merge_self first, ?_⟩
  refine ⟨ofSources_append sources others, fun cause => ofSources_append_error_iff, ?_⟩
  exact ⟨nested_none sources, nested_append parent sources others⟩

end SqlBinding.Scope
