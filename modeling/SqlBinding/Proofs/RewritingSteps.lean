import SqlBinding.Proofs.Rewriting
import SqlBinding.Proofs.TreeMatching

namespace SqlBinding

/-- A rewriting replaces labels as one function on canonical names says, leaves other names what they
stand for, and replaces parameters as another function says. -/
structure Rewriting.Acts (rule : Rewriting) (names : String → String) (params : Param → Param) :
    Prop where
  unnamed : names "" = ""
  label : ∀ ident, (rule.label ident).canonical = names ident.canonical
  reference : ∀ parts, Name.Matches names parts (rule.reference parts)
  table : ∀ name, Relation.ofName? (rule.table name) = Relation.ofName? name
  column : ∀ ident, (rule.column ident).canonical = ident.canonical
  target : ∀ name,
    (rule.target name).getLast?.map Ident.canonical = name.getLast?.map Ident.canonical
  placeholder : ∀ text, Param.ofText? (rule.placeholder text) = (Param.ofText? text).map params

section
variable {rule : Rewriting} {names : String → String} {params : Param → Param}

theorem rewriteExprs_eq_map (exprs : List Expr) :
    rewriteExprs rule exprs = exprs.map (Expr.rewrite rule) := by
  induction exprs with
  | nil => rw [rewriteExprs, List.map_nil]
  | cons first rest ih => rw [rewriteExprs, List.map_cons, ih]

theorem rewriteRows_eq_map (rows : List (List Expr)) :
    rewriteRows rule rows = rows.map (List.map (Expr.rewrite rule)) := by
  induction rows with
  | nil => rw [rewriteRows, List.map_nil]
  | cons first rest ih => rw [rewriteRows, List.map_cons, ih, rewriteExprs_eq_map]

theorem rewriteSelection_eq_map (selection : Option Expr) :
    rewriteSelection rule selection = selection.map (Expr.rewrite rule) := by
  cases selection <;> rw [rewriteSelection] <;> rfl

theorem rewriteSources_eq_map (sources : List Source) :
    rewriteSources rule sources = sources.map (Source.rewrite rule) := by
  induction sources with
  | nil => rw [rewriteSources, List.map_nil]
  | cons first rest ih => rw [rewriteSources, List.map_cons, ih]

theorem rewriteClause_eq_map (clause : Option (List Source)) :
    rewriteClause rule clause = clause.map (List.map (Source.rewrite rule)) := by
  cases clause with
  | none => rw [rewriteClause]; rfl
  | some sources => rw [rewriteClause, rewriteSources_eq_map]; rfl

theorem rewriteAssignments_eq_map (assignments : List Assignment) :
    rewriteAssignments rule assignments = assignments.map (Assignment.rewrite rule) := by
  induction assignments with
  | nil => rw [rewriteAssignments, List.map_nil]
  | cons first rest ih => rw [rewriteAssignments, List.map_cons, ih]

theorem Table.matches_rewrite (acts : rule.Acts names params) (name : Name) (label : Option Alias) :
    Table.Matches names ⟨name, label⟩ ⟨rule.table name, rewriteLabel rule label⟩ := by
  refine ⟨acts.table name, ?_⟩
  cases label with
  | none => rw [rewriteLabel]; exact acts.unnamed.symm
  | some label =>
    cases label
    rw [rewriteLabel, Alias.rewrite]
    exact acts.label _

theorem Source.carries_rewrite (acts : rule.Acts names params) :
    Source.Carries names (Factor.rewrite rule) (Source.rewrite rule) where
  table name label := ⟨_, _, by rw [Factor.rewrite], Table.matches_rewrite acts name label⟩
  call name _ _ label _ :=
    ⟨_, _, _, _, _, by rw [Factor.rewrite], Table.matches_rewrite acts name label⟩
  join inner label := ⟨_, by rw [Factor.rewrite]⟩
  other parts label := ⟨_, _, by rw [Factor.rewrite]⟩
  first item := by
    cases item
    rw [Source.rewrite]
  joined item := by
    obtain ⟨_, joins⟩ := item
    rw [Source.rewrite]
    induction joins with
    | nil => rw [rewriteJoins]; rfl
    | cons first rest ih =>
      cases first
      rw [rewriteJoins, Join.rewrite, List.map_cons, List.map_cons, ih]

theorem Query.carries_rewrite (acts : rule.Acts names params) :
    Query.Carries names (Expr.rewrite rule) (Query.rewrite rule) (Body.rewrite rule) where
  outer _ _ _ := by rw [Query.rewrite, Query.core]
  layer _ := by rw [Body.rewrite, Body.core]
  body body last := by
    cases body with
    | query inner => exact absurd rfl (last inner)
    | select block =>
      cases block
      rw [Body.rewrite, Select.rewrite, rewriteSources_eq_map, rewriteSelection_eq_map]
      exact .select ((Source.carries_rewrite acts).tablesOf _) rfl
    | values rows marked =>
      rw [Body.rewrite, rewriteRows_eq_map]
      exact .values
    | phrase parts =>
      rw [Body.rewrite]
      exact .phrase

theorem Expr.matches_rewrite (acts : rule.Acts names params) (expr : Expr) :
    Expr.Matches names params expr (expr.rewrite rule) := by
  induction expr using Expr.tree_induction with
  | column parts =>
    rw [Expr.rewrite]
    exact .column (acts.reference parts)
  | literal value =>
    rw [Expr.rewrite]
    cases value with
    | placeholder text => exact .placeholder (acts.placeholder text)
    | _ => exact .literal nofun
  | nested inner ih =>
    rw [Expr.rewrite]
    exact .opened (.enclosed ih)
  | logical connective left right ihLeft ihRight =>
    rw [Expr.rewrite]
    exact .logical ihLeft ihRight
  | negation operand ih =>
    rw [Expr.rewrite]
    exact .negation ih
  | binary op left right ihLeft ihRight =>
    rw [Expr.rewrite]
    exact .binary ihLeft ihRight
  | inList negated needle items ih each =>
    rw [Expr.rewrite, rewriteExprs_eq_map]
    exact .inList ih each
  | isNull negated operand =>
    rw [Expr.rewrite]
    exact .isNull
  | subquery query ih =>
    rw [Expr.rewrite]
    exact .subquery ((Query.carries_rewrite acts).resembles query) ih
  | phrase parts =>
    rw [Expr.rewrite]
    exact .phrase

theorem Insert.matches_rewrite (acts : rule.Acts names params) (insertion : Insert) :
    Insert.Matches names params insertion (insertion.rewrite rule) := by
  obtain ⟨_, target, _, columns, _, source, _⟩ := insertion
  rw [Insert.rewrite]
  constructor
  · cases target with
    | table name => rw [Target.rewrite]; exact .table (acts.table name)
    | function call => rw [Target.rewrite]; exact .function
  · rw [List.map_map]
    exact List.map_congr_left fun column _ => acts.column column
  · cases source with
    | none => rw [rewriteQuery]; exact .none
    | some source =>
      rw [rewriteQuery]
      refine .of_body (Body.rewrite rule) (Expr.matches_rewrite acts)
        (Query.carries_rewrite acts).body ?_ ?_
      · intro inner
        exact ⟨_, by rw [Body.rewrite]⟩
      · cases source
        rw [Query.rewrite]

theorem Assignment.matches_rewrite (acts : rule.Acts names params) (assignment : Assignment) :
    Assignment.Matches names params assignment (assignment.rewrite rule) := by
  obtain ⟨target, value⟩ := assignment
  rw [Assignment.rewrite]
  refine ⟨?_, Expr.matches_rewrite acts value⟩
  cases target with
  | tuple targets => exact .tuple
  | column name => exact .column (acts.target name)

theorem Update.matches_rewrite (acts : rule.Acts names params) (change : Update) :
    Update.Matches names params change (change.rewrite rule) := by
  cases change
  rw [Update.rewrite, rewriteAssignments_eq_map, rewriteClause_eq_map, rewriteSelection_eq_map]
  constructor
  · exact (Source.carries_rewrite acts).update_target rfl
  · exact List.forall₂_map_right_iff.mpr
      (List.forall₂_same.mpr fun assignment _ => assignment.matches_rewrite acts)
  · exact (Source.carries_rewrite acts).update_tables rfl rfl
  · exact selection_matches (Expr.matches_rewrite acts) _

theorem Delete.matches_rewrite (acts : rule.Acts names params) (deletion : Delete) :
    Delete.Matches names params deletion (deletion.rewrite rule) := by
  obtain ⟨_, _, sources, _, _, _⟩ := deletion
  rw [Delete.rewrite, rewriteSources_eq_map, rewriteSelection_eq_map]
  constructor
  · refine (Source.carries_rewrite acts).delete_tables ?_
    cases sources with
    | nil => rfl
    | cons first rest => exact congrArg some ((Source.carries_rewrite acts).first first)
  · exact selection_matches (Expr.matches_rewrite acts) _

theorem Statement.matches_rewrite (acts : rule.Acts names params) (statement : Statement) :
    Statement.Matches names params statement (statement.rewrite rule) := by
  cases statement with
  | query asked =>
    rw [Statement.rewrite]
    exact .query ((Query.carries_rewrite acts).toMatches (Expr.matches_rewrite acts) asked)
  | insert insertion =>
    rw [Statement.rewrite]
    exact .insert (insertion.matches_rewrite acts)
  | update change =>
    rw [Statement.rewrite]
    exact .update (change.matches_rewrite acts)
  | delete deletion =>
    rw [Statement.rewrite]
    exact .delete (deletion.matches_rewrite acts)
  | other parts =>
    rw [Statement.rewrite]
    exact .other

/-- A rewriting that acts in a uniform way acts so on the steps of a statement. -/
theorem Statement.steps_rewrite (acts : rule.Acts names params) (statement : Statement) :
    (statement.rewrite rule).steps = statement.steps.map (Step.rename names params) :=
  (statement.matches_rewrite acts).steps

end

end SqlBinding
