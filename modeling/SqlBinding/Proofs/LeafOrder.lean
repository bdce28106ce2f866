import SqlBinding.Proofs.LastBinding
import SqlBinding.Proofs.Leaves

/-! The order of a predicate's leaves. The last leaf that binds a parameter decides on its column, so
in general the order counts. It does not if the leaves never disagree: then a parameter has the
column that any of them gives it, and two predicates with the same leaves bind the same, however the
leaves are grouped and ordered.
-/

namespace SqlBinding

namespace Walk
variable {α : Type}

/-- Steps of which no two bind a parameter to different columns. -/
def Compatible (step : α → Walk (List Binding)) (items : List α) : Prop :=
  ∀ item ∈ items, ∀ other ∈ items, ∀ binding ∈ (step item).bound.entries,
    ∀ contrary ∈ (step other).bound.entries, binding.1 = contrary.1 → binding.2 = contrary.2

instance (step : α → Walk (List Binding)) (items : List α) : Decidable (Compatible step items) :=
  inferInstanceAs (Decidable (∀ item ∈ items, ∀ other ∈ items,
    ∀ binding ∈ (step item).bound.entries, ∀ contrary ∈ (step other).bound.entries,
      binding.1 = contrary.1 → binding.2 = contrary.2))

namespace Compatible
variable {step : α → Walk (List Binding)} {items others : List α}

theorem column_eq (compatible : Compatible step items) (present : item ∈ items)
    (alsoPresent : other ∈ items) (bound : (step item).bound.get? param = some column)
    (alsoBound : (step other).bound.get? param = some contrary) : column = contrary :=
  compatible item present other alsoPresent
    (param, column) ((ParamMap.get?_eq_some_iff ..).mp bound)
    (param, contrary) ((ParamMap.get?_eq_some_iff ..).mp alsoBound) rfl

theorem perm (compatible : Compatible step items) (permuted : items.Perm others) :
    Compatible step others := by
  intro item present other alsoPresent
  exact compatible item (permuted.mem_iff.mpr present) other (permuted.mem_iff.mpr alsoPresent)

/-- Where steps are compatible it does not matter which of them comes last. -/
theorem get?_gather_eq_some_iff (compatible : Compatible step items)
    (gathered : (gather step items).outcome = .ok found) (param : Param) (column : Column) :
    (gather step items).bound.get? param = some column ↔
      ∃ item ∈ items, (step item).bound.get? param = some column := by
  constructor
  · intro last
    obtain ⟨position, item, listed, bound, -⟩ := last_of_get?_bound_gather gathered last
    exact ⟨item, List.mem_of_getElem? listed, bound⟩
  · intro given
    obtain ⟨item, present, bound⟩ := given
    cases last : (gather step items).bound.get? param with
    | none =>
      rw [(get?_bound_gather_eq_none_iff gathered).mp last item present] at bound
      cases bound
    | some actual =>
      obtain ⟨position, other, listed, alsoBound, -⟩ := last_of_get?_bound_gather gathered last
      rw [compatible.column_eq present (List.mem_of_getElem? listed) bound alsoBound]

end Compatible
end Walk

/-- Predicates whose leaves are the same up to their order, where each leaf succeeds and no two bind
a parameter to different columns: both succeed, each parameter gets the column that any leaf binds it
to, and the same warnings come in another order. -/
theorem Expr.bindings_of_perm_leaves {first second : Expr} {scope : Scope}
    (permuted : first.leaves.Perm second.leaves)
    (succeed : ∀ leaf ∈ first.leaves, ∃ found, (leaf.bindings scope).outcome = .ok found)
    (compatible : Walk.Compatible (fun leaf : Expr => leaf.bindings scope) first.leaves) :
    ∃ found others, (first.bindings scope).outcome = .ok found ∧
      (second.bindings scope).outcome = .ok others ∧
      ParamMap.ofList found = ParamMap.ofList others ∧
      (∀ param column, (ParamMap.ofList found).get? param = some column ↔
        ∃ leaf ∈ first.leaves, (leaf.bindings scope).bound.get? param = some column) ∧
      (first.bindings scope).warnings.Perm (second.bindings scope).warnings := by
  have alsoSucceed : ∀ leaf ∈ second.leaves, ∃ found, (leaf.bindings scope).outcome = .ok found :=
    fun leaf present => succeed leaf (permuted.mem_iff.mpr present)
  obtain ⟨found, gathered⟩ := Walk.gather_ok_iff.mpr succeed
  obtain ⟨others, regathered⟩ := Walk.gather_ok_iff.mpr alsoSucceed
  have bound := compatible.get?_gather_eq_some_iff gathered
  have rebound := (compatible.perm permuted).get?_gather_eq_some_iff regathered
  rw [Walk.bound_of_ok gathered] at bound
  rw [Walk.bound_of_ok regathered] at rebound
  have same : ParamMap.ofList found = ParamMap.ofList others := by
    apply ParamMap.ext_get?
    intro param
    ext column
    rw [bound, rebound]
    simp only [permuted.mem_iff]
  rw [first.bindings_eq_gather scope, second.bindings_eq_gather scope]
  refine ⟨found, others, gathered, regathered, same, bound, ?_⟩
  rw [Walk.warnings_gather gathered, Walk.warnings_gather regathered]
  exact permuted.flatMap_right _

/-- `"c" = (SELECT … FROM "u" WHERE "d" = $2 AND "e" = $2)` -/
def comparedInside : Expr :=
  .binary (.symbol "=") (.column [⟨"c", some .double⟩]) (.subquery
    ⟨[], .select ⟨[], [⟨.table [⟨"u", some .double⟩] none, []⟩], [],
      some (.logical .and (comparedWith [⟨"d", some .double⟩] "$2")
        (comparedWith [⟨"e", some .double⟩] "$2")), []⟩, []⟩)

/-- `("a" = $1 OR NOT "b" = :x) AND (… AND NULL)` -/
def orderedLeaves : Expr :=
  .logical .and
    (.nested (.logical .or (comparedWith [⟨"a", some .double⟩] "$1")
      (.negation (comparedWith [⟨"b", some .double⟩] ":x"))))
    (.nested (.logical .and comparedInside (.literal .null)))

/-- `NULL OR … OR ("b" = :x AND "a" = $1)` -/
def reversedLeaves : Expr :=
  .logical .or (.logical .or (.literal .null) comparedInside)
    (.nested (.logical .and (comparedWith [⟨"b", some .double⟩] ":x")
      (comparedWith [⟨"a", some .double⟩] "$1")))

/-- The subquery binds `$2` to two columns, but as a leaf only to the second. -/
theorem Expr.bindings_of_perm_leaves_reversed :
    orderedLeaves.leaves.Perm reversedLeaves.leaves ∧
    Walk.Compatible (fun leaf : Expr => leaf.bindings .empty) orderedLeaves.leaves ∧
    ∃ found others, (orderedLeaves.bindings .empty).outcome = .ok found ∧
      (reversedLeaves.bindings .empty).outcome = .ok others ∧
      ParamMap.ofList found = ParamMap.ofList others ∧
      (ParamMap.ofList found).entries.map Prod.snd =
        [{ relation := .notFound, name := "a" }, { relation := ⟨none, "u"⟩, name := "e" }] ∧
      (orderedLeaves.bindings .empty).warnings.Perm (reversedLeaves.bindings .empty).warnings := by
  have permuted : orderedLeaves.leaves.Perm reversedLeaves.leaves :=
    (List.reverse_perm orderedLeaves.leaves).symm
  have succeed : ∀ leaf ∈ orderedLeaves.leaves,
      ∃ found, (leaf.bindings .empty).outcome = .ok found :=
    Walk.gather_ok_iff.mp ⟨_, rfl⟩
  have compatible : Walk.Compatible (fun leaf : Expr => leaf.bindings .empty)
      orderedLeaves.leaves := by decide
  obtain ⟨found, others, walked, rewalked, same, -, reported⟩ :=
    Expr.bindings_of_perm_leaves permuted succeed compatible
  refine ⟨permuted, compatible, found, others, walked, rewalked, same, ?_, reported⟩
  obtain rfl := Except.ok.inj walked
  rfl

end SqlBinding
