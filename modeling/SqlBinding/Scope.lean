import SqlBinding.Column

/-! The names that a FROM clause makes visible, each with the relation it stands for. A name that is
declared again keeps its place and takes the new relation. A relation without an alias is declared
under the empty name.
-/

namespace SqlBinding

/-- Declares a name: in place of its old relation, or behind all others. -/
def upsert (name : String) (relation : Relation) :
    List (String × Relation) → List (String × Relation)
  | [] => [(name, relation)]
  | entry :: rest =>
    if entry.1 = name then (name, relation) :: rest else entry :: upsert name relation rest

theorem mem_upsert_names {name other : String} {relation : Relation}
    {entries : List (String × Relation)} :
    other ∈ (upsert name relation entries).map Prod.fst ↔
      other = name ∨ other ∈ entries.map Prod.fst := by
  induction entries with
  | nil => simp [upsert]
  | cons entry rest ih =>
    by_cases same : entry.1 = name
    · simp [upsert, same]
    · simp only [upsert, same, ↓reduceIte, List.map_cons, List.mem_cons, ih]
      constructor
      · rintro (here | named | later)
        · exact .inr (.inl here)
        · exact .inl named
        · exact .inr (.inr later)
      · rintro (named | here | later)
        · exact .inr (.inl named)
        · exact .inl here
        · exact .inr (.inr later)

theorem upsert_nodup {entries : List (String × Relation)} (name : String) (relation : Relation)
    (distinct : (entries.map Prod.fst).Nodup) :
    ((upsert name relation entries).map Prod.fst).Nodup := by
  induction entries with
  | nil => simp [upsert]
  | cons entry rest ih =>
    have ⟨fresh, tail⟩ := List.nodup_cons.mp distinct
    by_cases same : entry.1 = name
    · simpa [upsert, same] using List.nodup_cons.mpr ⟨same ▸ fresh, tail⟩
    · simp only [upsert, same, ↓reduceIte, List.map_cons]
      refine List.nodup_cons.mpr ⟨?_, ih tail⟩
      intro member
      rcases mem_upsert_names.mp member with named | later
      · exact same named
      · exact fresh later

structure Scope where
  entries : List (String × Relation)
  distinct : (entries.map Prod.fst).Nodup

namespace Scope

def empty : Scope := ⟨[], List.nodup_nil⟩

def insert (scope : Scope) (name : String) (relation : Relation) : Scope :=
  ⟨upsert name relation scope.entries, upsert_nodup name relation scope.distinct⟩

/-- Declares several names in order. -/
def declare (scope : Scope) (declarations : List (String × Relation)) : Scope :=
  declarations.foldl (fun scope entry => scope.insert entry.1 entry.2) scope

/-- A scope with the entries of another declared on top. -/
def merge (scope other : Scope) : Scope := scope.declare other.entries

def get? (scope : Scope) (name : String) : Option Relation :=
  (scope.entries.find? fun entry => entry.1 == name).map Prod.snd

def size (scope : Scope) : Nat := scope.entries.length

/-- Whether two scopes give the same relation to every name, whatever their order. -/
def sameNames (first second : Scope) : Bool :=
  first.size == second.size &&
    first.entries.all fun entry => second.get? entry.1 == some entry.2

/-- The relation of a column that is named without a qualifier: the only one in scope, else the one
without an alias. -/
def unqualified (scope : Scope) : Relation :=
  match scope.entries with
  | [(_, relation)] => relation
  | _ => (scope.get? "").getD Relation.notFound

/-- The relation of a column that is named with a qualifier: the one declared under it, else the
table of that name. -/
def qualified (scope : Scope) (qualifier : Ident) : Relation :=
  (scope.get? qualifier.canonical).getD ⟨none, qualifier.canonical⟩

/-- The column a reference stands for. Parts behind the second do not count. -/
def column? (scope : Scope) : Name → Option Column
  | [] => none
  | [column] => some { relation := scope.unqualified, name := column.canonical }
  | qualifier :: column :: _ =>
    some { relation := scope.qualified qualifier, name := column.canonical }

end Scope
end SqlBinding
