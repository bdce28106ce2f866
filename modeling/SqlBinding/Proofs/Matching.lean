import Mathlib.Data.List.Forall2
import SqlBinding.Proofs.Run

namespace SqlBinding

/-- A reference with another name for the table. -/
def Reference.rename (names : String → String) : Reference → Reference
  | .plain column => .plain column
  | .qualified qualifier column => .qualified (names qualifier) column

/-- A step with other names for tables and other parameters. -/
def Step.rename (names : String → String) (params : Param → Param) : Step → Step
  | .report kind => .report kind
  | .fail cause => .fail cause
  | .store param column => .store (params param) column
  | .compare declarations param reference accessor =>
    .compare (declarations.map fun entry => (names entry.1, entry.2)) (params param)
      (reference.rename names) accessor

@[simp] theorem Step.rename_id : Step.rename id id = id := by
  funext step
  cases step with
  | compare declarations param reference accessor =>
    cases reference <;> simp [Step.rename, Reference.rename]
  | _ => rfl

/-- Two column references lead to the same column, up to the name of the table. -/
structure Name.Matches (names : String → String) (parts other : Name) : Prop where
  reference : Reference.of? other = (Reference.of? parts).map (Reference.rename names)
  long : 2 < other.length ↔ 2 < parts.length

inductive Operand.Matches (names : String → String) (params : Param → Param) :
    Operand → Operand → Prop where
  | column (same : Name.Matches names parts replaced) :
      Matches names params (.column parts) (.column replaced)
  | json (same : Name.Matches names parts replaced) :
      Matches names params (.json parts accessor) (.json replaced accessor)
  | param : Matches names params (.param ordinal) (.param (params ordinal))
  | placeholder : Matches names params (.placeholder text) (.placeholder written)
  | subquery : Matches names params (.subquery asked) (.subquery replaced)
  | other : Matches names params .other .other

section
variable {names : String → String} {params : Param → Param}

theorem Name.Matches.refl (parts : Name) : Name.Matches id parts parts := by
  refine ⟨?_, Iff.rfl⟩
  match parts with
  | [] => rfl
  | [_] => rfl
  | _ :: _ :: _ => rfl

/-- A field access on matching operands. -/
theorem Operand.Matches.access {left left' : Operand} (same : Operand.Matches names params left left')
    (key : String) (asText : Bool) :
    Operand.Matches names params (left.access key asText) (left'.access key asText) := by
  cases same with
  | column same => exact .json same
  | json same => exact .json same
  | _ => exact .other

theorem resolveSteps_matches {parts other : Name} (same : Name.Matches names parts other)
    {next after : Reference → List Step}
    (further : ∀ reference,
      after (reference.rename names) = (next reference).map (Step.rename names params)) :
    resolveSteps other after = (resolveSteps parts next).map (Step.rename names params) := by
  simp only [resolveSteps, same.reference, same.long, List.map_append]
  congr 1
  · split <;> rfl
  · cases Reference.of? parts with
    | none => rfl
    | some reference => exact further reference

theorem comparisonSteps_matches {left right left' right' : Operand}
    (first : Operand.Matches names params left left')
    (second : Operand.Matches names params right right') :
    comparisonSteps left' right' = (comparisonSteps left right).map (Step.rename names params) := by
  cases second with
  | param =>
    cases first with
    | column same => exact resolveSteps_matches same fun reference => rfl
    | json same => exact resolveSteps_matches same fun reference => rfl
    | _ => rfl
  | _ => cases first <;> rfl

theorem itemSteps_matches {item item' : Operand} (same : Operand.Matches names params item item')
    (reference : Reference) :
    itemSteps (reference.rename names) item' =
      (itemSteps reference item).map (Step.rename names params) := by
  cases same <;> rfl

theorem listSteps_matches {needle needle' : Operand}
    (same : Operand.Matches names params needle needle') {change : Expr → Expr} {items : List Expr}
    (matching : ∀ item ∈ items, Operand.Matches names params (.of item) (.of (change item))) :
    listSteps needle' (items.map change) =
      (listSteps needle items).map (Step.rename names params) := by
  have cells (reference : Reference) :
      ((items.map change).flatMap fun item => itemSteps (reference.rename names) (.of item)) =
        (items.flatMap fun item => itemSteps reference (.of item)).map
          (Step.rename names params) := by
    rw [List.flatMap_map, List.map_flatMap]
    exact List.flatMap_congr fun item member => itemSteps_matches (matching item member) reference
  cases same with
  | column same => exact resolveSteps_matches same cells
  | _ => rfl

theorem Step.under_rename (declarations : List (String × Relation)) (step : Step) :
    (step.rename names params).under (declarations.map fun entry => (names entry.1, entry.2)) =
      (step.under declarations).rename names params := by
  cases step with
  | compare => simp only [Step.rename, Step.under, List.map_append]
  | _ => rfl

theorem nameSteps_matches {name replaced : Name}
    (same : Relation.ofName? replaced = Relation.ofName? name) :
    nameSteps replaced = (nameSteps name).map (Step.rename names params) := by
  have unnamed : replaced = [] ↔ name = [] := by
    rw [← Relation.ofName?_eq_none_iff, same, Relation.ofName?_eq_none_iff]
  simp only [nameSteps, unnamed]
  split <;> rfl

/-- A table with the same relation under another name. -/
structure Table.Matches (names : String → String) (table other : Table) : Prop where
  relation : other.relation? = table.relation?
  key : other.key = names table.key

theorem Table.Matches.declaration {table other : Table} (same : Table.Matches names table other) :
    other.declaration? = table.declaration?.map fun entry => (names entry.1, entry.2) := by
  rw [Table.declaration?, Table.declaration?, same.relation, same.key, Option.map_map]
  rfl

theorem declarations_matches {tables others : List Table}
    (same : List.Forall₂ (Table.Matches names) tables others) :
    others.filterMap Table.declaration? =
      (tables.filterMap Table.declaration?).map fun entry => (names entry.1, entry.2) := by
  induction same with
  | nil => rfl
  | @cons table _ _ _ first rest ih =>
    rw [List.filterMap_cons, List.filterMap_cons, first.declaration, ih]
    cases table.declaration? <;> rfl

theorem clauseSteps_matches {tables others : List Table}
    (same : List.Forall₂ (Table.Matches names) tables others) (steps : List Step) :
    clauseSteps others (steps.map (Step.rename names params)) =
      (clauseSteps tables steps).map (Step.rename names params) := by
  have named : others.flatMap (fun table => nameSteps table.name) =
      (tables.flatMap fun table => nameSteps table.name).map (Step.rename names params) := by
    induction same with
    | nil => rfl
    | cons first rest ih =>
      rw [List.flatMap_cons, List.flatMap_cons, List.map_append, nameSteps_matches first.relation, ih]
  rw [clauseSteps, clauseSteps, declarations_matches same, named, List.map_append, List.map_map,
    List.map_map]
  exact congrArg _ (congrArg (List.map · steps) (funext (Step.under_rename _)))

namespace Insert

theorem cellSteps_matches (relation : Relation) {column column' : Option Ident}
    {cell cell' : Operand} (canonical : column'.map Ident.canonical = column.map Ident.canonical)
    (same : Operand.Matches names params cell cell') :
    cellSteps relation column' cell' =
      (cellSteps relation column cell).map (Step.rename names params) := by
  cases column with
  | none =>
    obtain rfl := Option.map_eq_none_iff.mp canonical
    cases same <;> rfl
  | some column =>
    obtain ⟨column', rfl, alike⟩ := Option.map_eq_some_iff.mp canonical
    cases same with
    | param => simp only [cellSteps, alike, List.map_cons, List.map_nil, Step.rename]
    | _ => rfl

theorem rowSteps_matches (relation : Relation) {columns columns' : List Ident} {row : List Expr}
    {change : Expr → Expr} (canonical : columns'.map Ident.canonical = columns.map Ident.canonical)
    (matching : ∀ cell, Operand.Matches names params (.of cell) (.of (change cell))) :
    rowSteps relation columns' (row.map change) =
      (rowSteps relation columns row).map (Step.rename names params) := by
  induction row generalizing columns columns' with
  | nil => rfl
  | cons first rest ih =>
    have head : columns'.head?.map Ident.canonical = columns.head?.map Ident.canonical := by
      rw [← List.head?_map, canonical, List.head?_map]
    have tail : columns'.tail.map Ident.canonical = columns.tail.map Ident.canonical := by
      rw [List.map_tail, canonical, List.map_tail]
    rw [List.map_cons, rowSteps, rowSteps, cellSteps_matches relation head (matching first), ih tail,
      List.map_append]

theorem sourceSteps_matches (relation : Relation) {columns columns' : List Ident}
    {source other : Query} {change : Expr → Expr}
    (canonical : columns'.map Ident.canonical = columns.map Ident.canonical)
    (rows : singleRow? other = (singleRow? source).map (List.map change))
    (matching : ∀ cell, Operand.Matches names params (.of cell) (.of (change cell))) :
    sourceSteps relation columns' (some other) =
      (sourceSteps relation columns (some source)).map (Step.rename names params) := by
  unfold sourceSteps
  simp only [rows]
  cases singleRow? source with
  | none => rfl
  | some row =>
    cases columns with
    | nil =>
      obtain rfl := List.map_eq_nil_iff.mp canonical
      rfl
    | cons first rest =>
      obtain ⟨first', rest', rfl, -⟩ := List.map_eq_cons_iff.mp canonical
      exact rowSteps_matches relation canonical matching

end Insert

/-- Targets of an assignment of which only the last part of a name counts. -/
inductive AssignmentTarget.Matches : AssignmentTarget → AssignmentTarget → Prop where
  | tuple : Matches (.tuple targets) (.tuple replaced)
  | column (same : replaced.getLast?.map Ident.canonical = name.getLast?.map Ident.canonical) :
      Matches (.column name) (.column replaced)

theorem AssignmentTarget.Matches.refl (target : AssignmentTarget) :
    AssignmentTarget.Matches target target := by
  cases target with
  | tuple targets => exact .tuple
  | column name => exact .column rfl

theorem Update.assignmentSteps_matches (relation : Relation) {assignment replaced : Assignment}
    (target : AssignmentTarget.Matches assignment.target replaced.target)
    (value : Operand.Matches names params (.of assignment.value) (.of replaced.value)) :
    assignmentSteps relation replaced =
      (assignmentSteps relation assignment).map (Step.rename names params) := by
  unfold assignmentSteps
  generalize assignment.target = before, replaced.target = after at target
  generalize Operand.of assignment.value = first, Operand.of replaced.value = second at value
  cases target with
  | tuple => rfl
  | @column name _ same =>
    cases value with
    | param =>
      simp only
      cases last : name.getLast? with
      | none =>
        rw [last] at same
        rw [Option.map_eq_none_iff.mp same]
        rfl
      | some column =>
        rw [last] at same
        obtain ⟨column', found, canonical⟩ := Option.map_eq_some_iff.mp same
        simp only [found, canonical]
        rfl
    | _ => rfl

end

end SqlBinding
