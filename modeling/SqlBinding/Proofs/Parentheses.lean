import SqlBinding.Proofs.Position
import SqlBinding.Proofs.TreeMatching

/-! Parentheses around expressions. They are looked through wherever an expression is read, so a
statement can be analyzed without any of them: the bindings, the placeholders, the kinds of the
warnings and the errors stay what they are. Only the texts of warnings show them.
-/

namespace SqlBinding

mutual

def Expr.strip : Expr → Expr
  | .column parts => .column parts
  | .literal value => .literal value
  | .nested inner => inner.strip
  | .logical connective left right => .logical connective left.strip right.strip
  | .negation operand => .negation operand.strip
  | .binary op left right => .binary op left.strip right.strip
  | .inList negated needle items => .inList negated needle.strip (stripExprs items)
  | .isNull negated operand => .isNull negated operand.strip
  | .subquery query => .subquery query.strip
  | .phrase parts => .phrase (stripParts parts)

def stripExprs : List Expr → List Expr
  | [] => []
  | expr :: rest => expr.strip :: stripExprs rest

def Part.strip : Part → Part
  | .text written => .text written
  | .name parts => .name parts
  | .expr value => .expr value.strip
  | .query value => .query value.strip
  | .statement value => .statement value.strip

def stripParts : List Part → List Part
  | [] => []
  | part :: rest => part.strip :: stripParts rest

def Query.strip : Query → Query
  | ⟨opening, body, closing⟩ => ⟨stripParts opening, body.strip, stripParts closing⟩

def Body.strip : Body → Body
  | .select block => .select block.strip
  | .query inner => .query inner.strip
  | .values rows marked => .values (stripRows rows) marked
  | .phrase parts => .phrase (stripParts parts)

def stripRows : List (List Expr) → List (List Expr)
  | [] => []
  | row :: rest => stripExprs row :: stripRows rest

def Select.strip : Select → Select
  | ⟨projection, sources, views, selection, grouping⟩ =>
    ⟨stripParts projection, stripSources sources, stripParts views, stripSelection selection,
      stripParts grouping⟩

def stripSelection : Option Expr → Option Expr
  | none => none
  | some condition => some condition.strip

def stripSources : List Source → List Source
  | [] => []
  | source :: rest => source.strip :: stripSources rest

def Source.strip : Source → Source
  | ⟨factor, joins⟩ => ⟨factor.strip, stripJoins joins⟩

def stripJoins : List Join → List Join
  | [] => []
  | join :: rest => join.strip :: stripJoins rest

def Join.strip : Join → Join
  | ⟨keyword, factor, condition⟩ => ⟨keyword, factor.strip, stripParts condition⟩

def Alias.strip : Alias → Alias
  | ⟨name, columns⟩ => ⟨name, stripParts columns⟩

def stripLabel : Option Alias → Option Alias
  | none => none
  | some label => some label.strip

def stripArguments : Option (List Part) → Option (List Part)
  | none => none
  | some arguments => some (stripParts arguments)

def Factor.strip : Factor → Factor
  | .table name label => .table name (stripLabel label)
  | .call name arguments numbering label closing =>
    .call name (stripArguments arguments) numbering (stripLabel label) (stripParts closing)
  | .join inner label => .join inner.strip (stripLabel label)
  | .other parts label => .other (stripParts parts) (stripLabel label)

def Statement.strip : Statement → Statement
  | .query asked => .query asked.strip
  | .insert insertion => .insert insertion.strip
  | .update change => .update change.strip
  | .delete deletion => .delete deletion.strip
  | .other parts => .other (stripParts parts)

def Target.strip : Target → Target
  | .table name => .table name
  | .function call => .function call.strip

def stripQuery : Option Query → Option Query
  | none => none
  | some query => some query.strip

def Insert.strip : Insert → Insert
  | ⟨opening, target, label, columns, partition, source, closing⟩ =>
    ⟨opening, target.strip, label, columns, stripParts partition, stripQuery source,
      stripParts closing⟩

def stripAssignments : List Assignment → List Assignment
  | [] => []
  | assignment :: rest => assignment.strip :: stripAssignments rest

def Assignment.strip : Assignment → Assignment
  | ⟨target, value⟩ => ⟨target, value.strip⟩

def stripClause : Option (List Source) → Option (List Source)
  | none => none
  | some sources => some (stripSources sources)

def Update.strip : Update → Update
  | ⟨opening, target, assignments, sources, sourcesFirst, selection, closing⟩ =>
    ⟨opening, target.strip, stripAssignments assignments, stripClause sources, sourcesFirst,
      stripSelection selection, stripParts closing⟩

def Delete.strip : Delete → Delete
  | ⟨tables, fromKeyword, sources, joined, selection, closing⟩ =>
    ⟨tables, fromKeyword, stripSources sources, stripClause joined, stripSelection selection,
      stripParts closing⟩

end

theorem stripExprs_eq_map (exprs : List Expr) : stripExprs exprs = exprs.map Expr.strip := by
  induction exprs with
  | nil => rw [stripExprs, List.map_nil]
  | cons first rest ih => rw [stripExprs, List.map_cons, ih]

theorem stripParts_eq_map (parts : List Part) : stripParts parts = parts.map Part.strip := by
  induction parts with
  | nil => rw [stripParts, List.map_nil]
  | cons first rest ih => rw [stripParts, List.map_cons, ih]

theorem stripRows_eq_map (rows : List (List Expr)) :
    stripRows rows = rows.map (List.map Expr.strip) := by
  induction rows with
  | nil => rw [stripRows, List.map_nil]
  | cons first rest ih => rw [stripRows, List.map_cons, ih, stripExprs_eq_map]

theorem stripSources_eq_map (sources : List Source) :
    stripSources sources = sources.map Source.strip := by
  induction sources with
  | nil => rw [stripSources, List.map_nil]
  | cons first rest ih => rw [stripSources, List.map_cons, ih]

theorem stripJoins_eq_map (joins : List Join) : stripJoins joins = joins.map Join.strip := by
  induction joins with
  | nil => rw [stripJoins, List.map_nil]
  | cons first rest ih => rw [stripJoins, List.map_cons, ih]

theorem stripAssignments_eq_map (assignments : List Assignment) :
    stripAssignments assignments = assignments.map Assignment.strip := by
  induction assignments with
  | nil => rw [stripAssignments, List.map_nil]
  | cons first rest ih => rw [stripAssignments, List.map_cons, ih]

theorem stripSelection_eq_map (selection : Option Expr) :
    stripSelection selection = selection.map Expr.strip := by
  cases selection <;> rw [stripSelection] <;> rfl

theorem stripClause_eq_map (clause : Option (List Source)) :
    stripClause clause = clause.map (List.map Source.strip) := by
  cases clause with
  | none => rw [stripClause]; rfl
  | some sources => rw [stripClause, stripSources_eq_map]; rfl

theorem labelParts_stripLabel (label : Option Alias) :
    labelParts (stripLabel label) = (labelParts label).map Part.strip := by
  cases label with
  | none => rw [stripLabel]; rfl
  | some label =>
    cases label
    rw [stripLabel, Alias.strip, labelParts, labelParts, stripParts_eq_map]

namespace Node

def strip : Node → Node
  | .expr value => .expr value.strip
  | .part value => .part value.strip
  | .query value => .query value.strip
  | .body value => .body value.strip
  | .source value => .source value.strip
  | .factor value => .factor value.strip
  | .statement value => .statement value.strip

/-- An expression between parentheses. -/
def IsNested (node : Node) : Prop := ∃ inner, node = .expr (.nested inner)

private theorem children_expr_strip {value : Expr} (plain : ¬ (Node.expr value).IsNested) :
    value.strip.children = value.children.map strip := by
  cases value with
  | nested inner => exact absurd ⟨inner, rfl⟩ plain
  | _ => simp [Expr.strip, Expr.children, strip, stripExprs_eq_map, stripParts_eq_map]

private theorem children_part_strip (value : Part) :
    value.strip.children = value.children.map strip := by
  cases value <;> simp [Part.strip, Part.children, strip]

private theorem children_query_strip (value : Query) :
    value.strip.children = value.children.map strip := by
  cases value
  simp [Query.strip, Query.children, strip, stripParts_eq_map, Function.comp_def]

private theorem children_body_strip (value : Body) :
    value.strip.children = value.children.map strip := by
  cases value with
  | select block =>
    obtain ⟨projection, sources, views, selection, grouping⟩ := block
    cases selection <;>
      simp [Body.strip, Select.strip, Body.children, strip, stripParts_eq_map, stripSources_eq_map,
        stripSelection, Function.comp_def]
  | query inner => simp [Body.strip, Body.children, strip]
  | values rows marked => simp [Body.strip, Body.children, strip, stripRows_eq_map, Function.comp_def]
  | phrase parts => simp [Body.strip, Body.children, strip, stripParts_eq_map]

private theorem children_source_strip (value : Source) :
    value.strip.children = value.children.map strip := by
  obtain ⟨factor, joins⟩ := value
  have each (join : Join) : (.factor join.strip.factor :: join.strip.condition.map .part) =
      ((.factor join.factor :: join.condition.map .part : List Node)).map strip := by
    cases join
    simp [Join.strip, strip, stripParts_eq_map]
  simp [Source.strip, Source.children, strip, stripJoins_eq_map, List.flatMap_map, List.map_flatMap,
    each]

private theorem children_factor_strip (value : Factor) :
    value.strip.children = value.children.map strip := by
  cases value with
  | call name arguments numbering label closing =>
    cases arguments <;>
      simp [Factor.strip, Factor.children, strip, stripParts_eq_map, labelParts_stripLabel,
        stripArguments, Function.comp_def]
  | _ =>
    simp [Factor.strip, Factor.children, strip, stripParts_eq_map, labelParts_stripLabel,
      Function.comp_def]

private theorem children_target_strip (value : Target) :
    value.strip.children = value.children.map strip := by
  cases value <;> simp [Target.strip, Target.children, strip]

private theorem children_statement_strip (value : Statement) :
    value.strip.children = value.children.map strip := by
  cases value with
  | query inner => simp [Statement.strip, Statement.children, strip]
  | insert insertion =>
    obtain ⟨_, target, _, _, partition, source, closing⟩ := insertion
    cases source <;>
      simp [Statement.strip, Insert.strip, Statement.children, strip, children_target_strip,
        stripParts_eq_map, stripQuery, Function.comp_def]
  | update change =>
    obtain ⟨_, target, assignments, sources, _, selection, closing⟩ := change
    have value (assignment : Assignment) : assignment.strip.value = assignment.value.strip := by
      cases assignment
      rw [Assignment.strip]
    cases sources <;> cases selection <;>
      simp [Statement.strip, Update.strip, Statement.children, strip, stripParts_eq_map, value,
        stripAssignments_eq_map, stripSources_eq_map, stripSelection, stripClause, Function.comp_def]
  | delete deletion =>
    obtain ⟨_, _, sources, joined, selection, closing⟩ := deletion
    cases joined <;> cases selection <;>
      simp [Statement.strip, Delete.strip, Statement.children, strip, stripParts_eq_map,
        stripSources_eq_map, stripSelection, stripClause, Function.comp_def]
  | other parts => simp [Statement.strip, Statement.children, strip, stripParts_eq_map]

/-- Away from parentheses, the children of a node are stripped where they stand. -/
theorem children_strip {node : Node} (plain : ¬ node.IsNested) :
    node.strip.children = node.children.map strip := by
  cases node with
  | expr value => exact children_expr_strip plain
  | part value => exact children_part_strip value
  | query value => exact children_query_strip value
  | body value => exact children_body_strip value
  | source value => exact children_source_strip value
  | factor value => exact children_factor_strip value
  | statement value => exact children_statement_strip value

theorem strip_nested (inner : Expr) : strip (.expr (.nested inner)) = strip (.expr inner) := by
  rw [strip, strip, Expr.strip]

/-- Induction over nodes that takes off parentheses one pair at a time. -/
theorem nested_induction {motive : Node → Prop}
    (nested : ∀ enclosed, motive (.expr enclosed) → motive (.expr (.nested enclosed)))
    (plain : ∀ node : Node, ¬ node.IsNested → (∀ child ∈ node.children, motive child) → motive node)
    (node : Node) : motive node := by
  induction node using Node.induction with
  | step node ih =>
    by_cases between : node.IsNested
    · obtain ⟨enclosed, rfl⟩ := between
      exact nested enclosed (ih (.expr enclosed) List.mem_cons_self)
    · exact plain node between ih

/-- What stands in a stripped node is stripped itself. -/
theorem exists_of_mem_children_strip {node child : Node} (member : child ∈ node.strip.children) :
    ∃ origin : Node, child = origin.strip := by
  induction node using nested_induction with
  | nested enclosed ih =>
    rw [strip_nested] at member
    exact ih member
  | plain node between ih =>
    rw [children_strip between] at member
    obtain ⟨origin, -, rfl⟩ := List.mem_map.mp member
    exact ⟨origin, rfl⟩

theorem not_isNested_strip (node : Node) : ¬ node.strip.IsNested := by
  induction node using nested_induction with
  | nested enclosed ih =>
    rw [strip_nested]
    exact ih
  | plain node between ih =>
    rintro ⟨inner, same⟩
    cases node with
    | expr value =>
      cases value with
      | nested enclosed => exact between ⟨enclosed, rfl⟩
      | _ => simp [strip, Expr.strip] at same
    | _ => simp [strip] at same

/-- No parentheses are left at any position. -/
theorem not_isNested_of_at?_strip {node found : Node} {path : List Nat}
    (stands : node.strip.at? path = some found) : ¬ found.IsNested := by
  induction path generalizing node with
  | nil =>
    obtain rfl := Option.some.inj stands
    exact not_isNested_strip node
  | cons index path ih =>
    rw [at?_cons] at stands
    obtain ⟨child, listed, stands⟩ := Option.bind_eq_some_iff.mp stands
    obtain ⟨origin, rfl⟩ := exists_of_mem_children_strip (List.mem_of_getElem? listed)
    exact ih stands

theorem own_strip {node : Node} (plain : ¬ node.IsNested) : node.strip.own = node.own := by
  cases node with
  | expr value =>
    cases value with
    | nested inner => exact absurd ⟨inner, rfl⟩ plain
    | _ => simp [strip, Expr.strip, own]
  | _ => rfl

theorem placeholders_strip (node : Node) : node.strip.placeholders = node.placeholders := by
  induction node using nested_induction with
  | nested enclosed ih =>
    rw [strip_nested, ih, placeholders_eq (.expr (.nested enclosed))]
    simp [own, children, Expr.children]
  | plain node between ih =>
    rw [placeholders_eq node.strip, placeholders_eq node, own_strip between, children_strip between,
      List.flatMap_map, List.flatMap_def, List.flatMap_def, List.map_congr_left ih]

end Node

theorem Table.matches_strip (name : Name) (label : Option Alias) :
    Table.Matches id ⟨name, label⟩ ⟨name, stripLabel label⟩ := by
  refine ⟨rfl, ?_⟩
  cases label with
  | none => rw [stripLabel]; rfl
  | some label =>
    cases label
    rw [stripLabel, Alias.strip]
    rfl

theorem Source.carries_strip : Source.Carries id Factor.strip Source.strip where
  table name label := ⟨_, _, by rw [Factor.strip], Table.matches_strip name label⟩
  call name _ _ label _ := ⟨_, _, _, _, _, by rw [Factor.strip], Table.matches_strip name label⟩
  join inner label := ⟨_, by rw [Factor.strip]⟩
  other parts label := ⟨_, _, by rw [Factor.strip]⟩
  first item := by
    cases item
    rw [Source.strip]
  joined item := by
    have each (join : Join) : join.strip.factor = join.factor.strip := by
      cases join
      rw [Join.strip]
    cases item
    simp only [Source.strip, stripJoins_eq_map, List.map_map, Function.comp_def, each]

theorem Query.carries_strip : Query.Carries id Expr.strip Query.strip Body.strip where
  outer _ _ _ := by rw [Query.strip, Query.core]
  layer _ := by rw [Body.strip, Body.core]
  body body last := by
    cases body with
    | query inner => exact absurd rfl (last inner)
    | select block =>
      cases block
      rw [Body.strip, Select.strip, stripSources_eq_map, stripSelection_eq_map]
      exact .select (Source.carries_strip.tablesOf _) rfl
    | values rows marked =>
      rw [Body.strip, stripRows_eq_map]
      exact .values
    | phrase parts =>
      rw [Body.strip]
      exact .phrase

theorem Expr.matches_strip (expr : Expr) : Expr.Matches id id expr expr.strip := by
  induction expr using Expr.tree_induction with
  | column parts =>
    rw [Expr.strip]
    exact .column (Name.Matches.refl parts)
  | literal value =>
    rw [Expr.strip]
    exact .literal_self value
  | nested inner ih =>
    rw [Expr.strip]
    exact .opened ih
  | logical connective left right ihLeft ihRight =>
    rw [Expr.strip]
    exact .logical ihLeft ihRight
  | negation operand ih =>
    rw [Expr.strip]
    exact .negation ih
  | binary op left right ihLeft ihRight =>
    rw [Expr.strip]
    exact .binary ihLeft ihRight
  | inList negated needle items ih each =>
    rw [Expr.strip, stripExprs_eq_map]
    exact .inList ih each
  | isNull negated operand =>
    rw [Expr.strip]
    exact .isNull
  | subquery query ih =>
    rw [Expr.strip]
    exact .subquery (Query.carries_strip.resembles query) ih
  | phrase parts =>
    rw [Expr.strip]
    exact .phrase

theorem Insert.matches_strip (insertion : Insert) : Insert.Matches id id insertion insertion.strip := by
  obtain ⟨_, target, _, _, _, source, _⟩ := insertion
  rw [Insert.strip]
  constructor
  · cases target with
    | table name => rw [Target.strip]; exact .table rfl
    | function call => rw [Target.strip]; exact .function
  · rfl
  · cases source with
    | none => rw [stripQuery]; exact .none
    | some source =>
      rw [stripQuery]
      refine .of_body Body.strip Expr.matches_strip Query.carries_strip.body ?_ ?_
      · intro inner
        exact ⟨_, by rw [Body.strip]⟩
      · cases source
        rw [Query.strip]

theorem Assignment.matches_strip (assignment : Assignment) :
    Assignment.Matches id id assignment assignment.strip := by
  cases assignment
  rw [Assignment.strip]
  exact ⟨.refl _, Expr.matches_strip _⟩

theorem Update.matches_strip (change : Update) : Update.Matches id id change change.strip := by
  cases change
  rw [Update.strip, stripAssignments_eq_map, stripClause_eq_map, stripSelection_eq_map]
  constructor
  · exact Source.carries_strip.update_target rfl
  · exact List.forall₂_map_right_iff.mpr
      (List.forall₂_same.mpr fun assignment _ => assignment.matches_strip)
  · exact Source.carries_strip.update_tables rfl rfl
  · exact selection_matches Expr.matches_strip _

theorem Delete.matches_strip (deletion : Delete) : Delete.Matches id id deletion deletion.strip := by
  obtain ⟨_, _, sources, _, _, _⟩ := deletion
  rw [Delete.strip, stripSources_eq_map, stripSelection_eq_map]
  constructor
  · refine Source.carries_strip.delete_tables ?_
    cases sources with
    | nil => rfl
    | cons first rest => exact congrArg some (Source.carries_strip.first first)
  · exact selection_matches Expr.matches_strip _

theorem Statement.matches_strip (statement : Statement) :
    Statement.Matches id id statement statement.strip := by
  cases statement with
  | query asked =>
    rw [Statement.strip]
    exact .query (Query.carries_strip.toMatches Expr.matches_strip asked)
  | insert insertion =>
    rw [Statement.strip]
    exact .insert insertion.matches_strip
  | update change =>
    rw [Statement.strip]
    exact .update change.matches_strip
  | delete deletion =>
    rw [Statement.strip]
    exact .delete deletion.matches_strip
  | other parts =>
    rw [Statement.strip]
    exact .other

theorem Statement.steps_strip (statement : Statement) : statement.strip.steps = statement.steps := by
  simpa using statement.matches_strip.steps

/-- No parentheses are left, and the analysis finds what it finds with them: the same columns for the
same parameters, the same placeholders and the same kinds of warnings, or the same error. -/
theorem Statement.analyze_strip (statement : Statement) :
    (∀ path inner, (Node.statement statement.strip).at? path ≠ some (.expr (.nested inner))) ∧
    statement.strip.analyze.outcome.map (fun analysis => (analysis.outline, analysis.placeholders)) =
      statement.analyze.outcome.map (fun analysis => (analysis.outline, analysis.placeholders)) := by
  constructor
  · intro path inner stands
    have strip : Node.statement statement.strip = (Node.statement statement).strip := rfl
    rw [strip] at stands
    exact Node.not_isNested_of_at?_strip stands ⟨inner, rfl⟩
  · have placeholders : statement.strip.placeholders = statement.placeholders :=
      (Node.statement statement).placeholders_strip
    refine outline_placeholders_of_steps_eq statement.steps_strip ?_
    rw [Statement.params, Statement.params, placeholders]

end SqlBinding
