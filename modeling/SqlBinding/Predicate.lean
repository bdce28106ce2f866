import SqlBinding.Operand
import SqlBinding.Scope.Sources

/-! The bindings of a WHERE clause. A comparison of a column with a parameter binds the parameter to
the column, an IN list binds its parameters to the column in front, and a comparison with a subquery
is searched in the scope of that subquery. Bindings come in the order in which they are met.
-/

namespace SqlBinding

/-- The bindings of an IN list over a column. -/
def listBindings (column : Column) (items : List Expr) : Walk (List Binding) :=
  Walk.gather (fun item =>
    match Operand.of item with
    | .param param => return [(param, column)]
    | .placeholder text => do
      Walk.warn .placeholder text
      return []
    | _ => return []) items

/-- The bindings of a comparison whose right side is no subquery. -/
def comparisonBindings (scope : Scope) (comparison : String) (left right : Operand) :
    Walk (List Binding) :=
  match left, right with
  | .column parts, .param param => do
    let column ← scope.resolve parts
    return [(param, column)]
  | .json parts accessor, .param param => do
    let column ← scope.resolve parts
    return [(param, column.withAccessor accessor)]
  | _, .column _ => return []
  | _, .placeholder text => do
    Walk.warn .placeholder text
    return []
  | _, _ => do
    Walk.warn .whereClause comparison
    return []

mutual

def Expr.bindings : Expr → Scope → Walk (List Binding)
  | .nested inner, scope => inner.bindings scope
  | .logical _ left right, scope => do
    let first ← left.bindings scope
    let second ← right.bindings scope
    return first ++ second
  | .negation operand, scope => operand.bindings scope
  | .binary op left right, scope =>
    match right.subqueryBindings scope with
    | some walk => do
      Walk.emit .subquery
      walk
    | none =>
      comparisonBindings scope (Expr.render (.binary op left right)) (Operand.of left)
        (Operand.of right)
  | .inList negated needle items, scope =>
    match Operand.of needle with
    | .column parts => do
      let column ← scope.resolve parts
      listBindings column items
    | _ => do
      Walk.warn .whereClause (Expr.render (.inList negated needle items))
      return []
  | .isNull _ _, _ => return []
  | .column parts, _ => unsupported (.column parts)
  | .literal value, _ => unsupported (.literal value)
  | .subquery query, _ => unsupported (.subquery query)
  | .phrase parts, _ => unsupported (.phrase parts)
where
  unsupported (expr : Expr) : Walk (List Binding) := do
    Walk.warn .whereClause expr.render
    return []

/-- The bindings of an expression that is a subquery in parentheses; the scope is around it. -/
def Expr.subqueryBindings : Expr → Scope → Option (Walk (List Binding))
  | .nested inner, scope => inner.subqueryBindings scope
  | .subquery query, scope => some (query.bindings (some scope))
  | _, _ => none

def Query.bindings : Query → Option Scope → Walk (List Binding)
  | ⟨_, body, _⟩, parent => body.bindings parent

def Body.bindings : Body → Option Scope → Walk (List Binding)
  | .select block, parent => block.bindings parent
  | .query inner, parent => inner.bindings parent
  | .values rows marked, _ => unsupported (.values rows marked)
  | .phrase parts, _ => unsupported (.phrase parts)
where
  unsupported (body : Body) : Walk (List Binding) := do
    Walk.warn .selectBody body.render
    return []

def Select.bindings : Select → Option Scope → Walk (List Binding)
  | ⟨_, sources, _, selection, _⟩, parent => do
    let scope ← Scope.nested parent sources
    Walk.emit (.select scope.size parent.isSome)
    selectionBindings selection scope

/-- The bindings of a WHERE clause that may be absent. -/
def selectionBindings : Option Expr → Scope → Walk (List Binding)
  | none, _ => return []
  | some condition, scope => condition.bindings scope

end

end SqlBinding
