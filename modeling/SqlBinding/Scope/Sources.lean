import SqlBinding.Scope
import SqlBinding.Syntax.Render
import SqlBinding.Walk

/-! Scopes of FROM clauses. Tables and functions called for a table declare a name, from left to
right and with joins in parentheses opened in place; derived tables and the like declare none.
-/

namespace SqlBinding

/-- The name under which a table is declared: its alias, else the empty name. -/
def declaredName : Option Alias → String
  | some label => label.name.canonical
  | none => ""

/-- The declaration of a table. -/
def declareTable (name : Name) (label : Option Alias) : Walk (List (String × Relation)) := do
  let relation ← Walk.require (.emptyObjectName name.render) (Relation.ofName? name)
  Walk.emit (.relationInScope (declaredName label) relation)
  return [(declaredName label, relation)]

mutual

def Factor.declarations : Factor → Walk (List (String × Relation))
  | .table name label => declareTable name label
  | .call name _ _ label _ => declareTable name label
  | .join inner _ => inner.declarations
  | .other parts label => do
    Walk.emit (.noRelation (Factor.render (.other parts label)))
    return []

def Source.declarations : Source → Walk (List (String × Relation))
  | ⟨factor, joins⟩ => do
    let first ← factor.declarations
    let others ← declarationsOfJoins joins
    return first ++ others

def declarationsOfJoins : List Join → Walk (List (String × Relation))
  | [] => return []
  | ⟨_, factor, _⟩ :: rest => do
    let first ← factor.declarations
    let others ← declarationsOfJoins rest
    return first ++ others

end

namespace Scope

/-- The scope of the items of a FROM clause. -/
def ofSources (sources : List Source) : Walk Scope := do
  let declarations ← Walk.gather Source.declarations sources
  return Scope.empty.declare declarations

/-- The scope of a single factor, without the joins attached to it. -/
def ofFactor (factor : Factor) : Walk Scope := do
  let declarations ← factor.declarations
  return Scope.empty.declare declarations

/-- The scope of a SELECT: its own FROM clause on top of the scope around it. -/
def nested (parent : Option Scope) (sources : List Source) : Walk Scope := do
  let inner ← ofSources sources
  return (parent.getD Scope.empty).merge inner

/-- The column a reference stands for; parts that do not count are reported. -/
def resolve (scope : Scope) (parts : Name) : Walk Column := do
  if 2 < parts.length then Walk.warn .columnReference (Name.render parts)
  Walk.require .emptyColumnRef (scope.column? parts)

end Scope
end SqlBinding
