import SqlBinding.Proofs.Position
import SqlBinding.Proofs.Predicate

/-! The parts of a predicate that its walk comes to: through parentheses, connectives and negations,
and from a comparison with a subquery to the WHERE clause of that subquery. Each FROM clause on the
way is added to the scope, and the walk of the whole contains the walk of the part in that scope.
-/

namespace SqlBinding

/-- The steps into the parentheses around an expression. -/
def Expr.parens : Expr → List Nat
  | .nested inner => 0 :: inner.parens
  | _ => []

mutual

/-- The steps from a query to its innermost body. -/
def Query.layers : Query → List Nat
  | ⟨opening, body, _⟩ => opening.length :: body.layers

def Body.layers : Body → List Nat
  | .query inner => 0 :: inner.layers
  | .select _ => []
  | .values _ _ => []
  | .phrase _ => []

end

/-- The place of the WHERE clause among the children of a SELECT. -/
def Select.conditionIndex (block : Select) : Nat :=
  block.projection.length + block.sources.length + block.views.length

/-- The steps from a comparison to the innermost body of the subquery on its right. -/
def bodySteps (right : Expr) (query : Query) : List Nat :=
  1 :: right.parens ++ 0 :: query.layers

/-- The walk of a predicate comes to a part of it, at a position and through the FROM clauses of the
subqueries on the way, the outermost first. -/
inductive Expr.Reaches : Expr → List Nat → List (List Source) → Expr → Prop where
  | here : Reaches expr [] [] expr
  | nested (inside : Reaches enclosed path levels part) :
      Reaches (.nested enclosed) (0 :: path) levels part
  | left (inside : Reaches left path levels part) :
      Reaches (.logical connective left right) (0 :: path) levels part
  | right (inside : Reaches right path levels part) :
      Reaches (.logical connective left right) (1 :: path) levels part
  | negation (inside : Reaches operand path levels part) :
      Reaches (.negation operand) (0 :: path) levels part
  | subquery (next : Expr.Continues right query block condition)
      (inside : Reaches condition path levels part) :
      Reaches (.binary op left right) (bodySteps right query ++ block.conditionIndex :: path)
        (block.sources :: levels) part

/-- The scope inside SELECTs that are nested in a scope, given their FROM clauses, the outermost
first. -/
def Scope.within (scope : Scope) : List (List Source) → Walk Scope
  | [] => return scope
  | sources :: levels => do
    let inner ← Scope.nested (some scope) sources
    inner.within levels

theorem Expr.parens_eq_nil {expr : Expr} (plain : ∀ inner, expr = .nested inner → False) :
    expr.parens = [] := by
  cases expr with
  | nested inner => exact absurd rfl (plain inner)
  | _ => rfl

theorem Expr.at?_parens (expr : Expr) (path : List Nat) :
    (Node.expr expr).at? (expr.parens ++ path) = (Node.expr expr.bare).at? path := by
  fun_induction Expr.bare expr with
  | case1 inner ih => exact ih
  | case2 expr plain =>
    rw [Expr.parens_eq_nil plain]
    rfl

theorem Expr.at?_of_bare {expr : Expr} (bare : expr.bare = enclosed) :
    (Node.expr expr).at? expr.parens = some (.expr enclosed) := by
  rw [← List.append_nil expr.parens, expr.at?_parens, bare]
  rfl

mutual

theorem Query.at?_layers (path : List Nat) :
    ∀ query : Query, (Node.query query).at? (query.layers ++ path) = (Node.body query.core).at? path
  | ⟨opening, body, closing⟩ => by
    rw [Query.core, Query.layers, ← body.at?_layers path]
    simp [Node.at?_cons, Node.children, Query.children]

theorem Body.at?_layers (path : List Nat) :
    ∀ body : Body, (Node.body body).at? (body.layers ++ path) = (Node.body body.core).at? path
  | .query inner => by
    rw [Body.core, Body.layers, ← inner.at?_layers path]
    rfl
  | .select _ => by rw [Body.core]; rfl
  | .values _ _ => by rw [Body.core]; rfl
  | .phrase _ => by rw [Body.core]; rfl

end

theorem Select.at?_condition {block : Select} (clause : block.selection = some condition)
    (path : List Nat) :
    (Node.body (.select block)).at? (block.conditionIndex :: path) =
      (Node.expr condition).at? path := by
  simp [Node.at?_cons, Node.children, Body.children, Select.conditionIndex, clause, Nat.add_assoc]

theorem Expr.at?_bodySteps {right : Expr} (operand : right.bare = .subquery query)
    (path : List Nat) :
    (Node.expr (.binary op left right)).at? (bodySteps right query ++ path) =
      (Node.body query.core).at? path := by
  have entered : (Node.expr (.binary op left right)).at? (bodySteps right query ++ path) =
      (Node.expr right).at? (right.parens ++ (0 :: query.layers ++ path)) := by
    rw [bodySteps, List.append_assoc]
    rfl
  rw [entered, right.at?_parens, operand]
  exact query.at?_layers path

namespace Expr.Reaches

/-- What the walk comes to stands at its position. -/
theorem at? (reached : Reaches root path levels part) :
    (Node.expr root).at? path = some (.expr part) := by
  induction reached with
  | here => rfl
  | nested inside ih => exact ih
  | left inside ih => exact ih
  | right inside ih => exact ih
  | negation inside ih => exact ih
  | subquery next inside ih =>
    rw [Expr.at?_bodySteps next.operand, next.body, Select.at?_condition next.clause]
    exact ih

end Expr.Reaches

theorem Scope.within_cons_ok_iff {scope : Scope} :
    (scope.within (sources :: levels)).outcome = .ok result ↔
      ∃ inner, (Scope.nested (some scope) sources).outcome = .ok inner ∧
        (inner.within levels).outcome = .ok result :=
  Walk.bind_ok_iff

/-- The walk of both sides of a connective, if it succeeds, is the walk of the left side and then
that of the right side. -/
theorem bindings_logical_ok {scope : Scope}
    (walked : ((Expr.logical connective left right).bindings scope).outcome = .ok found) :
    ∃ first second, (left.bindings scope).outcome = .ok first ∧
      (right.bindings scope).outcome = .ok second ∧ found = first ++ second ∧
      Walk.Within (left.bindings scope) ((Expr.logical connective left right).bindings scope) ∧
      Walk.Within (right.bindings scope) ((Expr.logical connective left right).bindings scope) := by
  rw [Expr.bindings] at walked ⊢
  obtain ⟨first, leftDone, walked⟩ := Walk.bind_ok_iff.mp walked
  obtain ⟨second, rightDone, walked⟩ := Walk.bind_ok_iff.mp walked
  obtain rfl := Except.ok.inj walked
  exact ⟨first, second, leftDone, rightDone, rfl, .start leftDone (.refl _),
    .rest leftDone (.start rightDone (.refl _))⟩

/-- The walk of a comparison with a subquery, if it succeeds, contains the walk of the subquery's WHERE
clause in the scope of that subquery. -/
theorem bindings_continues_ok {right : Expr} {scope : Scope}
    (next : Expr.Continues right query block condition)
    (walked : ((Expr.binary op left right).bindings scope).outcome = .ok found) :
    ∃ inner, (Scope.nested (some scope) block.sources).outcome = .ok inner ∧
      (condition.bindings inner).outcome = .ok found ∧
      Walk.Within (condition.bindings inner) ((Expr.binary op left right).bindings scope) := by
  rw [bindings_of_subquery next.operand, next.body] at walked ⊢
  obtain ⟨_, emitted, walked⟩ := Walk.bind_ok_iff.mp walked
  obtain ⟨inner, entered, continued, within⟩ := bindings_select_ok next.clause walked
  exact ⟨inner, entered, continued, .rest emitted within⟩

/-- A successful walk of a predicate contains a successful walk of each part it comes to. -/
theorem Expr.Reaches.walked {scope : Scope} (reached : Expr.Reaches root path levels part)
    (walked : (root.bindings scope).outcome = .ok found) :
    ∃ inner own, (scope.within levels).outcome = .ok inner ∧
      (part.bindings inner).outcome = .ok own ∧
      Walk.Within (part.bindings inner) (root.bindings scope) := by
  induction reached generalizing scope found with
  | here => exact ⟨scope, found, rfl, walked, .refl _⟩
  | nested inside ih =>
    rw [Expr.bindings] at walked ⊢
    exact ih walked
  | left inside ih =>
    obtain ⟨first, second, leftDone, rightDone, -, early, -⟩ := bindings_logical_ok walked
    obtain ⟨inner, own, entered, done, part⟩ := ih leftDone
    exact ⟨inner, own, entered, done, part.trans early⟩
  | right inside ih =>
    obtain ⟨first, second, leftDone, rightDone, -, -, late⟩ := bindings_logical_ok walked
    obtain ⟨inner, own, entered, done, part⟩ := ih rightDone
    exact ⟨inner, own, entered, done, part.trans late⟩
  | negation inside ih =>
    rw [Expr.bindings] at walked ⊢
    exact ih walked
  | subquery next inside ih =>
    obtain ⟨middle, entered, continued, late⟩ := bindings_continues_ok next walked
    obtain ⟨inner, own, deeper, done, part⟩ := ih continued
    exact ⟨inner, own, Scope.within_cons_ok_iff.mpr ⟨middle, entered, deeper⟩, done,
      part.trans late⟩

end SqlBinding
