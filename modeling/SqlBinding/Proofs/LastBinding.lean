import Mathlib.Data.List.Basic
import SqlBinding.Predicate
import SqlBinding.Proofs.Agreement
import SqlBinding.Proofs.ParamMap

namespace SqlBinding

namespace Walk
variable {α : Type}

/-- The parameters that a walk binds, each with the column it has in the end; none if it fails. -/
def bound (walk : Walk (List Binding)) : ParamMap Column :=
  (walk.outcome.toOption.map ParamMap.ofList).getD .empty

theorem bound_of_ok {walk : Walk (List Binding)} (succeeded : walk.outcome = .ok found) :
    walk.bound = ParamMap.ofList found := by
  rw [bound, succeeded]
  rfl

theorem get?_bound_of_nil {walk : Walk (List Binding)} (succeeded : walk.outcome = .ok [])
    (param : Param) : walk.bound.get? param = none := by
  rw [bound_of_ok succeeded]
  rfl

theorem get?_bound_of_single {walk : Walk (List Binding)}
    (succeeded : walk.outcome = .ok [(ordinal, column)]) (param : Param) :
    walk.bound.get? param = if ordinal = param then some column else none := by
  rw [bound_of_ok succeeded]
  exact ParamMap.get?_insert .empty ordinal column param

/-- What one walk binds and then another, put together, is the map of the one with the map of the other
merged into it. -/
theorem bound_append {first second : Walk (List Binding)} {whole : List Binding}
    (walked : (do return (← first) ++ (← second) : Walk (List Binding)).outcome = .ok whole) :
    (do return (← first) ++ (← second) : Walk (List Binding)).bound =
      first.bound.merge second.bound := by
  obtain ⟨found, succeeded, rest⟩ := bind_ok_iff.mp walked
  obtain ⟨others, followed, joined⟩ := bind_ok_iff.mp rest
  obtain rfl : found ++ others = whole := Except.ok.inj joined
  rw [bound_of_ok walked, bound_of_ok succeeded, bound_of_ok followed, ParamMap.ofList_append]

/-- A later item overwrites what an earlier one binds. -/
theorem get?_bound_gather {step : α → Walk (List Binding)} {items : List α}
    (gathered : (gather step items).outcome = .ok found) (param : Param) :
    (gather step items).bound.get? param =
      items.reverse.findSome? fun item => (step item).bound.get? param := by
  induction items generalizing found with
  | nil => rfl
  | cons first rest ih =>
    obtain ⟨_, _, -, others, -⟩ := gather_cons_ok_iff.mp gathered
    calc (gather step (first :: rest)).bound.get? param
        = ((step first).bound.merge (gather step rest).bound).get? param :=
          congrArg (ParamMap.get? · param) (bound_append gathered)
      _ = ((gather step rest).bound.get? param).or ((step first).bound.get? param) :=
          ParamMap.get?_merge _ _ param
      _ = (first :: rest).reverse.findSome? fun item => (step item).bound.get? param := by
          rw [ih others, List.reverse_cons, List.findSome?_append, List.findSome?_singleton]

theorem get?_bound_gather_eq_none_iff {step : α → Walk (List Binding)} {items : List α}
    (gathered : (gather step items).outcome = .ok found) {param : Param} :
    (gather step items).bound.get? param = none ↔
      ∀ item ∈ items, (step item).bound.get? param = none := by
  rw [get?_bound_gather gathered, List.findSome?_eq_none_iff]
  simp only [List.mem_reverse]

/-- The column of a parameter comes from an item behind which no other binds the parameter. -/
theorem last_of_get?_bound_gather {step : α → Walk (List Binding)} {items : List α}
    (gathered : (gather step items).outcome = .ok found)
    (bound : (gather step items).bound.get? param = some column) :
    ∃ (position : Nat) (item : α), items[position]? = some item ∧
      (step item).bound.get? param = some column ∧
      ∀ (later : Nat) (other : α), position < later → items[later]? = some other →
        (step other).bound.get? param = none := by
  rw [get?_bound_gather gathered] at bound
  obtain ⟨after, item, before, split, own, unbound⟩ := List.findSome?_eq_some_iff.mp bound
  have items_eq : items = before.reverse ++ item :: after.reverse := by
    simpa using congrArg List.reverse split
  refine ⟨before.reverse.length, item, by simp [items_eq], own, ?_⟩
  intro later other behind listed
  obtain ⟨distance, rfl⟩ := Nat.exists_eq_add_of_lt behind
  rw [items_eq, List.getElem?_append_right (by omega)] at listed
  have inside : after.reverse[distance]? = some other := by
    rwa [show before.reverse.length + distance + 1 - before.reverse.length = distance + 1 by omega,
      List.getElem?_cons_succ] at listed
  exact unbound other (List.mem_reverse.mp (List.mem_of_getElem? inside))

theorem warnings_gather_eq_filterMap {step : α → Walk (List Binding)} {report? : α → Option Warning}
    (each : ∀ item, (step item).warnings = (report? item).toList) {items : List α}
    (gathered : (gather step items).outcome = .ok found) :
    (gather step items).warnings = items.filterMap report? := by
  rw [warnings_gather gathered, List.filterMap_eq_flatMap_toList]
  simp only [each]

end Walk

/-- The parameters of a connective are those of its sides, merged from the left. -/
theorem Expr.bound_logical {connective : Connective} {left right : Expr} {scope : Scope}
    (walked : ((Expr.logical connective left right).bindings scope).outcome = .ok found) :
    ((Expr.logical connective left right).bindings scope).bound =
      (left.bindings scope).bound.merge (right.bindings scope).bound := by
  rw [Expr.bindings] at walked ⊢
  exact Walk.bound_append walked

end SqlBinding
