import SqlBinding.Predicate
import SqlBinding.Proofs.Operand
import SqlBinding.Proofs.Walk

/-! The walk of a WHERE clause, one equation for each form of predicate. A comparison with a subquery
goes on in the innermost body of that subquery, so an argument about the walk goes by induction on
the predicate and on the WHERE clauses of such subqueries.
-/

namespace SqlBinding

mutual

/-- The innermost body of a query, which its parentheses enclose. -/
def Query.core : Query → Body
  | ⟨_, body, _⟩ => body.core

def Body.core : Body → Body
  | .query inner => inner.core
  | .select block => .select block
  | .values rows marked => .values rows marked
  | .phrase parts => .phrase parts

end

mutual

theorem Query.bindings_core (parent : Option Scope) :
    ∀ query : Query, query.bindings parent = query.core.bindings parent
  | ⟨_, body, _⟩ => by
    rw [Query.bindings, Query.core]
    exact body.bindings_core parent

theorem Body.bindings_core (parent : Option Scope) :
    ∀ body : Body, body.bindings parent = body.core.bindings parent
  | .query inner => by
    rw [Body.bindings, Body.core]
    exact inner.bindings_core parent
  | .select _ => by rw [Body.core]
  | .values _ _ => by rw [Body.core]
  | .phrase _ => by rw [Body.core]

end

mutual

theorem Query.core_ne_query : ∀ query inner : Query, query.core ≠ .query inner
  | ⟨_, body, _⟩, inner => by
    rw [Query.core]
    exact body.core_ne_query inner

theorem Body.core_ne_query : ∀ (body : Body) (inner : Query), body.core ≠ .query inner
  | .query enclosed, inner => by
    rw [Body.core]
    exact enclosed.core_ne_query inner
  | .select _, _ => by simp [Body.core]
  | .values _ _, _ => by simp [Body.core]
  | .phrase _, _ => by simp [Body.core]

end

mutual

theorem Query.sizeOf_core_lt : ∀ query : Query, sizeOf query.core < sizeOf query
  | ⟨_, body, _⟩ => by
    have smaller := body.sizeOf_core_le
    simp only [Query.core, Query.mk.sizeOf_spec]
    omega

theorem Body.sizeOf_core_le : ∀ body : Body, sizeOf body.core ≤ sizeOf body
  | .query inner => by
    have smaller := inner.sizeOf_core_lt
    simp only [Body.core, Body.query.sizeOf_spec]
    omega
  | .select _ => Nat.le_of_eq (by rw [Body.core])
  | .values _ _ => Nat.le_of_eq (by rw [Body.core])
  | .phrase _ => Nat.le_of_eq (by rw [Body.core])

end

/-- The WHERE clause of a query, which is that of its innermost body. -/
def Query.condition? (query : Query) : Option Expr :=
  match query.core with
  | .select block => block.selection
  | _ => none

theorem Query.sizeOf_condition_lt {query : Query} (clause : query.condition? = some condition) :
    sizeOf condition < sizeOf query := by
  have smaller := query.sizeOf_core_lt
  unfold Query.condition? at clause
  split at clause
  case h_1 block body =>
    rw [body, Body.select.sizeOf_spec] at smaller
    cases block
    subst clause
    simp only [Select.mk.sizeOf_spec, Option.some.sizeOf_spec] at smaller
    omega
  case h_2 => cases clause

/-- Induction over expressions, through operands and into the WHERE clauses of subqueries. -/
theorem Expr.tree_induction {motive : Expr → Prop}
    (column : ∀ parts, motive (.column parts))
    (literal : ∀ value, motive (.literal value))
    (nested : ∀ inner, motive inner → motive (.nested inner))
    (logical : ∀ connective left right, motive left → motive right →
      motive (.logical connective left right))
    (negation : ∀ operand, motive operand → motive (.negation operand))
    (binary : ∀ op left right, motive left → motive right → motive (.binary op left right))
    (inList : ∀ negated needle items, motive needle → (∀ item ∈ items, motive item) →
      motive (.inList negated needle items))
    (isNull : ∀ negated operand, motive (.isNull negated operand))
    (subquery : ∀ query, (∀ condition, query.condition? = some condition → motive condition) →
      motive (.subquery query))
    (phrase : ∀ parts, motive (.phrase parts)) (expr : Expr) : motive expr := by
  have recur (smaller : Expr) (_ : sizeOf smaller < sizeOf expr) : motive smaller :=
    tree_induction column literal nested logical negation binary inList isNull subquery phrase smaller
  cases expr with
  | column parts => exact column parts
  | literal value => exact literal value
  | nested inner => exact nested inner (recur inner (by simp))
  | logical connective left right =>
    exact logical connective left right (recur left (by simp +arith)) (recur right (by simp +arith))
  | negation operand => exact negation operand (recur operand (by simp))
  | binary op left right =>
    exact binary op left right (recur left (by simp +arith)) (recur right (by simp +arith))
  | inList negated needle items =>
    refine inList negated needle items (recur needle (by simp +arith)) fun item member => ?_
    have smaller := List.sizeOf_lt_of_mem member
    exact recur item (by simp only [Expr.inList.sizeOf_spec]; omega)
  | isNull negated operand => exact isNull negated operand
  | subquery query =>
    refine subquery query fun condition clause => recur condition ?_
    have smaller := Query.sizeOf_condition_lt clause
    simp only [Expr.subquery.sizeOf_spec]
    omega
  | phrase parts => exact phrase parts
termination_by sizeOf expr

/-- The WHERE clause that the walk of a comparison goes on to. -/
structure Expr.Continues (right : Expr) (query : Query) (block : Select) (condition : Expr) :
    Prop where
  operand : right.bare = .subquery query
  body : query.core = .select block
  clause : block.selection = some condition

/-- Induction along the walk of a predicate. -/
theorem Expr.walk_induction {motive : Expr → Prop}
    (nested : ∀ inner, motive inner → motive (.nested inner))
    (logical : ∀ connective left right, motive left → motive right →
      motive (.logical connective left right))
    (negation : ∀ operand, motive operand → motive (.negation operand))
    (binary : ∀ op left right,
      (∀ query block condition, Expr.Continues right query block condition → motive condition) →
      motive (.binary op left right))
    (inList : ∀ negated needle items, motive (.inList negated needle items))
    (isNull : ∀ negated operand, motive (.isNull negated operand))
    (column : ∀ parts, motive (.column parts))
    (literal : ∀ value, motive (.literal value))
    (subquery : ∀ query, motive (.subquery query))
    (phrase : ∀ parts, motive (.phrase parts)) (expr : Expr) : motive expr := by
  suffices both : motive expr ∧ ∀ query block condition,
      Expr.Continues expr query block condition → motive condition from both.1
  induction expr using Expr.tree_induction with
  | nested inner ih =>
    exact ⟨nested inner ih.1, fun query block condition next =>
      ih.2 query block condition ⟨next.operand, next.body, next.clause⟩⟩
  | subquery query ih =>
    refine ⟨subquery query, fun _ block condition next => ?_⟩
    obtain rfl := Expr.subquery.inj next.operand
    refine (ih condition ?_).1
    rw [Query.condition?, next.body]
    exact next.clause
  | logical connective left right ihLeft ihRight =>
    exact ⟨logical connective left right ihLeft.1 ihRight.1, fun _ _ _ next => nomatch next.operand⟩
  | negation operand ih => exact ⟨negation operand ih.1, fun _ _ _ next => nomatch next.operand⟩
  | binary op left right _ ihRight =>
    exact ⟨binary op left right ihRight.2, fun _ _ _ next => nomatch next.operand⟩
  | inList negated needle items =>
    exact ⟨inList negated needle items, fun _ _ _ next => nomatch next.operand⟩
  | isNull negated operand => exact ⟨isNull negated operand, fun _ _ _ next => nomatch next.operand⟩
  | column parts => exact ⟨column parts, fun _ _ _ next => nomatch next.operand⟩
  | literal value => exact ⟨literal value, fun _ _ _ next => nomatch next.operand⟩
  | phrase parts => exact ⟨phrase parts, fun _ _ _ next => nomatch next.operand⟩

theorem subqueryBindings_of_subquery {right : Expr} (operand : right.bare = .subquery query)
    (scope : Scope) : right.subqueryBindings scope = some (query.core.bindings (some scope)) := by
  rw [← Query.bindings_core]
  fun_induction Expr.bare right with
  | case1 inner ih =>
    rw [Expr.subqueryBindings]
    exact ih operand
  | case2 expr plain =>
    subst operand
    rw [Expr.subqueryBindings]

theorem subqueryBindings_eq_none {right : Expr} (apart : ∀ query, right.bare ≠ .subquery query)
    (scope : Scope) : right.subqueryBindings scope = none := by
  fun_induction Expr.bare right with
  | case1 inner ih =>
    rw [Expr.subqueryBindings]
    exact ih apart
  | case2 expr plain =>
    cases expr with
    | nested inner => exact absurd rfl (plain inner)
    | subquery query => exact absurd rfl (apart query)
    | _ => rfl

/-- A comparison with a subquery is searched in the innermost body of that subquery. -/
theorem bindings_of_subquery {right : Expr} (operand : right.bare = .subquery query)
    (scope : Scope) :
    (Expr.binary op left right).bindings scope = (do
      Walk.emit .subquery
      query.core.bindings (some scope)) := by
  rw [Expr.bindings, subqueryBindings_of_subquery operand]

/-- Any other comparison is decided by what its two sides are as operands. -/
theorem bindings_of_comparison {right : Expr} (apart : ∀ query, right.bare ≠ .subquery query)
    (scope : Scope) :
    (Expr.binary op left right).bindings scope =
      comparisonBindings scope (Expr.render (.binary op left right)) (Operand.of left)
        (Operand.of right) := by
  rw [Expr.bindings, subqueryBindings_eq_none apart]

theorem bindings_of_select (block : Select) (parent : Option Scope) :
    (Body.select block).bindings parent = (do
      let scope ← Scope.nested parent block.sources
      Walk.emit (.select scope.size parent.isSome)
      selectionBindings block.selection scope) := by
  cases block
  rw [Body.bindings, Select.bindings]

/-- The walk of a SELECT, if it succeeds, contains the walk of its WHERE clause in the scope of its
FROM clause. -/
theorem bindings_select_ok {parent : Option Scope} (clause : block.selection = some condition)
    (walked : ((Body.select block).bindings parent).outcome = .ok found) :
    ∃ inner, (Scope.nested parent block.sources).outcome = .ok inner ∧
      (condition.bindings inner).outcome = .ok found ∧
      Walk.Within (condition.bindings inner) ((Body.select block).bindings parent) := by
  rw [bindings_of_select, clause] at walked ⊢
  obtain ⟨inner, entered, walked⟩ := Walk.bind_ok_iff.mp walked
  obtain ⟨_, announced, walked⟩ := Walk.bind_ok_iff.mp walked
  rw [selectionBindings] at walked
  refine ⟨inner, entered, walked, .rest entered (.rest announced ?_)⟩
  rw [selectionBindings]
  exact .refl _

/-- Only a SELECT with a WHERE clause has bindings. -/
theorem Query.bindings_eq_nil_or {query : Query} {parent : Option Scope}
    (walked : (query.core.bindings parent).outcome = .ok found) :
    found = [] ∨ ∃ block condition, query.core = .select block ∧
      block.selection = some condition := by
  cases form : query.core with
  | query inner => exact absurd form (query.core_ne_query inner)
  | select block =>
    rw [form, bindings_of_select] at walked
    obtain ⟨inner, -, walked⟩ := Walk.bind_ok_iff.mp walked
    rw [Walk.outcome_bind (Walk.outcome_emit _)] at walked
    cases clause : block.selection with
    | some condition => exact .inr ⟨block, condition, rfl, clause⟩
    | none =>
      rw [clause, selectionBindings] at walked
      exact .inl (Except.ok.inj walked).symm
  | values rows marked =>
    rw [form, Body.bindings] at walked
    exact .inl (Except.ok.inj walked).symm
  | phrase parts =>
    rw [form, Body.bindings] at walked
    exact .inl (Except.ok.inj walked).symm

/-- The parameter that an item of an IN list is, bound to the column in front. -/
def itemBinding? (column : Column) (item : Expr) : Option Binding :=
  match Operand.of item with
  | .param param => some (param, column)
  | _ => none

theorem listBindings_outcome (column : Column) (items : List Expr) :
    (listBindings column items).outcome = .ok (items.filterMap (itemBinding? column)) := by
  unfold listBindings
  induction items with
  | nil => rfl
  | cons first rest ih =>
    refine Walk.gather_cons_ok_iff.mpr ⟨(itemBinding? column first).toList, _, ?_, ih, ?_⟩
    · unfold itemBinding?
      cases Operand.of first <;> rfl
    · rw [List.filterMap_cons]
      cases itemBinding? column first <;> rfl

/-- A comparison of a column with a placeholder. -/
def comparedWith (parts : Name) (text : String) : Expr :=
  .binary (.symbol "=") (.column parts) (.literal (.placeholder text))

theorem resolve_ok_iff {scope : Scope} :
    (scope.resolve parts).outcome = .ok column ↔ scope.column? parts = some column := by
  unfold Scope.resolve
  simp only
  split
  · rw [Walk.outcome_bind (Walk.outcome_warn _ _), Walk.require_ok_iff]
  · rw [Walk.require_ok_iff]

end SqlBinding
