import SqlBinding.Param
import SqlBinding.Syntax.Ident

namespace SqlBinding

/-- A table, with its schema if that is known. -/
structure Relation where
  schema : Option String
  table : String
deriving DecidableEq, Repr

namespace Relation

/-- Stands in for a relation that no name in scope leads to. -/
def notFound : Relation := ⟨none, "<NOT FOUND>"⟩

/-- The last part of a name is the table and the part before it the schema; earlier parts do not
count. -/
def ofName? (name : Name) : Option Relation :=
  match name.reverse with
  | [] => none
  | [table] => some ⟨none, table.canonical⟩
  | table :: schema :: _ => some ⟨some schema.canonical, table.canonical⟩

def render (relation : Relation) : String :=
  match relation.schema with
  | some schema => schema ++ "." ++ relation.table
  | none => relation.table

end Relation

/-- A path into a JSON column, and whether the value found there is taken as text. -/
structure JsonAccessor where
  path : String
  asText : Bool
deriving DecidableEq, Repr

structure Column where
  relation : Relation
  name : String
  accessor : Option JsonAccessor := none
deriving DecidableEq, Repr

namespace Column

def withAccessor (column : Column) (accessor : JsonAccessor) : Column :=
  { column with accessor := some accessor }

def render (column : Column) : String :=
  column.relation.render ++ "." ++ column.name ++
    match column.accessor with
    | some accessor => "." ++ accessor.path
    | none => ""

end Column

/-- A parameter and a column it stands for. -/
abbrev Binding := Param × Column

end SqlBinding
