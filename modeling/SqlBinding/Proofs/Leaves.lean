import SqlBinding.Proofs.Agreement
import SqlBinding.Proofs.Predicate

namespace SqlBinding

/-- The predicates that a predicate is put together from, from left to right, seen through
parentheses, connectives and negations. -/
def Expr.leaves : Expr → List Expr
  | .nested inner => inner.leaves
  | .logical _ left right => left.leaves ++ right.leaves
  | .negation operand => operand.leaves
  | leaf => [leaf]

/-- The walk of a predicate goes through its leaves. -/
theorem Expr.bindings_eq_gather (expr : Expr) (scope : Scope) :
    expr.bindings scope = Walk.gather (fun leaf => leaf.bindings scope) expr.leaves := by
  induction expr using Expr.walk_induction with
  | nested inner ih =>
    rw [Expr.bindings, Expr.leaves]
    exact ih
  | negation operand ih =>
    rw [Expr.bindings, Expr.leaves]
    exact ih
  | logical connective left right ihLeft ihRight =>
    rw [Expr.bindings, Expr.leaves, Walk.gather_append, ← ihLeft, ← ihRight]
  | binary | inList | isNull | column | literal | subquery | phrase =>
    exact (Walk.gather_singleton (fun leaf : Expr => leaf.bindings scope) _).symm

/-- Predicates with the same leaves have the same walk, and that walk takes the leaves in turn. -/
theorem Expr.bindings_of_leaves :
    (∀ (first second : Expr) (scope : Scope), first.leaves = second.leaves →
      first.bindings scope = second.bindings scope) ∧
    ∀ (expr : Expr) (scope : Scope),
      Walk.InTurn (fun leaf => leaf.bindings scope) expr.leaves (expr.bindings scope) := by
  constructor
  · intro first second scope same
    rw [first.bindings_eq_gather scope, second.bindings_eq_gather scope, same]
  · intro expr scope
    rw [expr.bindings_eq_gather scope]
    exact Walk.gather_inTurn _ expr.leaves

/-- `("a" = $1 OR NOT "b" = :x) AND … = $2 AND "c" = $3`, with a malformed name before `$2` -/
def groupedLeft : Expr :=
  .logical .and (.logical .and
    (.nested (.logical .or (comparedWith [⟨"a", some .double⟩] "$1")
      (.negation (comparedWith [⟨"b", some .double⟩] ":x"))))
    (comparedWith [] "$2")) (comparedWith [⟨"c", some .double⟩] "$3")

/-- `NOT "a" = $1 OR ("b" = :x AND (… = $2 OR "c" = $3))` -/
def groupedRight : Expr :=
  .logical .or (.negation (comparedWith [⟨"a", some .double⟩] "$1"))
    (.nested (.logical .and (comparedWith [⟨"b", some .double⟩] ":x")
      (.nested (.logical .or (comparedWith [] "$2") (comparedWith [⟨"c", some .double⟩] "$3")))))

/-- Both walks report the second leaf and end with the third. -/
theorem Expr.bindings_of_leaves_regrouped :
    groupedLeft.leaves = groupedRight.leaves ∧
    groupedLeft.bindings .empty = groupedRight.bindings .empty ∧
    (groupedRight.bindings .empty).outcome = .error .emptyColumnRef ∧
    (groupedRight.bindings .empty).warnings = [⟨.placeholder, ":x"⟩] :=
  ⟨rfl, Expr.bindings_of_leaves.1 groupedLeft groupedRight .empty rfl, rfl, rfl⟩

end SqlBinding
