import SqlBinding.Syntax.Placeholders
import SqlBinding.Syntax.Render

/-! Positions in a tree. The nodes of a tree are its expressions, phrase parts, queries, bodies, FROM
items and statements, each with its children from left to right; a position is the list of the
children to follow. The placeholders of a tree are exactly those that stand at a position of it.
-/

namespace SqlBinding

inductive Node where
  | expr (value : Expr)
  | part (value : Part)
  | query (value : Query)
  | body (value : Body)
  | source (value : Source)
  | factor (value : Factor)
  | statement (value : Statement)

/-- The columns of a label that may be absent. -/
def labelParts : Option Alias → List Part
  | none => []
  | some label => label.columns

def Expr.children : Expr → List Node
  | .column _ => []
  | .literal _ => []
  | .nested inner => [.expr inner]
  | .logical _ left right => [.expr left, .expr right]
  | .negation operand => [.expr operand]
  | .binary _ left right => [.expr left, .expr right]
  | .inList _ needle items => .expr needle :: items.map .expr
  | .isNull _ operand => [.expr operand]
  | .subquery query => [.query query]
  | .phrase parts => parts.map .part

def Part.children : Part → List Node
  | .text _ => []
  | .name _ => []
  | .expr value => [.expr value]
  | .query value => [.query value]
  | .statement value => [.statement value]

def Query.children (query : Query) : List Node :=
  query.opening.map .part ++ .body query.body :: query.closing.map .part

def Body.children : Body → List Node
  | .select block =>
    block.projection.map .part ++ block.sources.map .source ++ block.views.map .part ++
      block.selection.toList.map .expr ++ block.grouping.map .part
  | .query inner => [.query inner]
  | .values rows _ => rows.flatten.map .expr
  | .phrase parts => parts.map .part

def Source.children (source : Source) : List Node :=
  .factor source.factor ::
    source.joins.flatMap fun join => .factor join.factor :: join.condition.map .part

def Factor.children : Factor → List Node
  | .table _ label => (labelParts label).map .part
  | .call _ arguments _ label closing =>
    (arguments.getD [] ++ labelParts label ++ closing).map .part
  | .join inner label => .source inner :: (labelParts label).map .part
  | .other parts label => (parts ++ labelParts label).map .part

def Target.children : Target → List Node
  | .table _ => []
  | .function call => [.expr call]

def Statement.children : Statement → List Node
  | .query inner => [.query inner]
  | .insert insertion =>
    insertion.target.children ++ insertion.partition.map .part ++
      insertion.source.toList.map .query ++ insertion.closing.map .part
  | .update change =>
    .source change.target :: change.assignments.map (fun assignment => .expr assignment.value) ++
      (change.sources.getD []).map .source ++ change.selection.toList.map .expr ++
      change.closing.map .part
  | .delete deletion =>
    deletion.sources.map .source ++ (deletion.joined.getD []).map .source ++
      deletion.selection.toList.map .expr ++ deletion.closing.map .part
  | .other parts => parts.map .part

private theorem placeholdersOfExprs_eq (values : List Expr) :
    placeholdersOfExprs values = values.flatMap Expr.placeholders := by
  induction values with
  | nil => rfl
  | cons first rest ih => simp [placeholdersOfExprs, ih]

private theorem placeholdersOfParts_eq (parts : List Part) :
    placeholdersOfParts parts = parts.flatMap Part.placeholders := by
  induction parts with
  | nil => rfl
  | cons first rest ih => simp [placeholdersOfParts, ih]

private theorem placeholdersOfRows_eq (rows : List (List Expr)) :
    placeholdersOfRows rows = rows.flatten.flatMap Expr.placeholders := by
  induction rows with
  | nil => rfl
  | cons first rest ih => simp [placeholdersOfRows, placeholdersOfExprs_eq, ih]

private theorem placeholdersOfSources_eq (sources : List Source) :
    placeholdersOfSources sources = sources.flatMap Source.placeholders := by
  induction sources with
  | nil => rfl
  | cons first rest ih => simp [placeholdersOfSources, ih]

private theorem placeholdersOfJoins_eq (joins : List Join) :
    placeholdersOfJoins joins = joins.flatMap fun join =>
      join.factor.placeholders ++ join.condition.flatMap Part.placeholders := by
  induction joins with
  | nil => rfl
  | cons first rest ih =>
    cases first
    simp [placeholdersOfJoins, Join.placeholders, placeholdersOfParts_eq, ih]

private theorem placeholdersOfAssignments_eq (assignments : List Assignment) :
    placeholdersOfAssignments assignments =
      assignments.flatMap fun assignment => assignment.value.placeholders := by
  induction assignments with
  | nil => rfl
  | cons first rest ih =>
    cases first
    simp [placeholdersOfAssignments, Assignment.placeholders, ih]

private theorem placeholdersOfSelection_eq (selection : Option Expr) :
    placeholdersOfSelection selection = selection.toList.flatMap Expr.placeholders := by
  cases selection <;> simp [placeholdersOfSelection]

private theorem placeholdersOfQuery_eq (query : Option Query) :
    placeholdersOfQuery query = query.toList.flatMap Query.placeholders := by
  cases query <;> simp [placeholdersOfQuery]

private theorem placeholdersOfClause_eq (clause : Option (List Source)) :
    placeholdersOfClause clause = (clause.getD []).flatMap Source.placeholders := by
  cases clause <;> simp [placeholdersOfClause, placeholdersOfSources_eq]

private theorem placeholdersOfArguments_eq (arguments : Option (List Part)) :
    placeholdersOfArguments arguments = (arguments.getD []).flatMap Part.placeholders := by
  cases arguments <;> simp [placeholdersOfArguments, placeholdersOfParts_eq]

private theorem placeholdersOfLabel_eq (label : Option Alias) :
    placeholdersOfLabel label = (labelParts label).flatMap Part.placeholders := by
  cases label with
  | none => rfl
  | some label =>
    cases label
    simp [placeholdersOfLabel, Alias.placeholders, labelParts, placeholdersOfParts_eq]

namespace Node

/-- What stands directly in a node, from left to right. -/
def children : Node → List Node
  | .expr value => value.children
  | .part value => value.children
  | .query value => value.children
  | .body value => value.children
  | .source value => value.children
  | .factor value => value.children
  | .statement value => value.children

def render : Node → String
  | .expr value => value.render
  | .part value => value.render
  | .query value => value.render
  | .body value => value.render
  | .source value => value.render
  | .factor value => value.render
  | .statement value => value.render

def placeholders : Node → List String
  | .expr value => value.placeholders
  | .part value => value.placeholders
  | .query value => value.placeholders
  | .body value => value.placeholders
  | .source value => value.placeholders
  | .factor value => value.placeholders
  | .statement value => value.placeholders

/-- The node at a position. -/
def at? : Node → List Nat → Option Node
  | node, [] => some node
  | node, index :: path => node.children[index]?.bind fun child => child.at? path

/-- The node of a placeholder. -/
def placeholder (text : String) : Node := .expr (.literal (.placeholder text))

/-- An ordinal placeholder stands at a position. -/
def Occurs (root : Node) (path : List Nat) (param : Param) : Prop :=
  ∃ text, root.at? path = some (placeholder text) ∧ Param.ofText? text = some param

@[simp] theorem at?_nil (node : Node) : node.at? [] = some node := rfl

theorem at?_cons (node : Node) (index : Nat) (path : List Nat) :
    node.at? (index :: path) = node.children[index]?.bind fun child => child.at? path := rfl

theorem at?_append (node : Node) (outer inner : List Nat) :
    node.at? (outer ++ inner) = (node.at? outer).bind fun middle => middle.at? inner := by
  induction outer generalizing node with
  | nil => rfl
  | cons index outer ih =>
    simp only [List.cons_append, at?_cons]
    cases node.children[index]? with
    | none => rfl
    | some child => exact ih child

/-- The placeholder that a node is itself, if it is one. -/
def own : Node → List String
  | .expr (.literal value) => value.placeholders
  | _ => []

private theorem placeholders_expr (value : Expr) :
    value.placeholders = own (.expr value) ++ value.children.flatMap placeholders := by
  cases value <;>
    simp [placeholders, own, Expr.placeholders, Expr.children, List.flatMap_map,
      placeholdersOfExprs_eq, placeholdersOfParts_eq]

private theorem placeholders_part (value : Part) :
    value.placeholders = value.children.flatMap placeholders := by
  cases value <;> simp [placeholders, Part.placeholders, Part.children]

private theorem placeholders_query (value : Query) :
    value.placeholders = value.children.flatMap placeholders := by
  cases value
  simp [placeholders, Query.placeholders, Query.children, List.flatMap_map, placeholdersOfParts_eq]

private theorem placeholders_body (value : Body) :
    value.placeholders = value.children.flatMap placeholders := by
  cases value with
  | select block =>
    cases block
    simp [placeholders, Body.placeholders, Select.placeholders, Body.children, List.flatMap_map,
      placeholdersOfParts_eq, placeholdersOfSources_eq, placeholdersOfSelection_eq]
  | query inner => simp [placeholders, Body.placeholders, Body.children]
  | values rows marked =>
    simp [placeholders, Body.placeholders, Body.children, List.flatMap_map, placeholdersOfRows_eq,
      -List.map_flatten]
  | phrase parts =>
    simp [placeholders, Body.placeholders, Body.children, List.flatMap_map, placeholdersOfParts_eq]

private theorem placeholders_source (value : Source) :
    value.placeholders = value.children.flatMap placeholders := by
  cases value
  simp [placeholders, Source.placeholders, Source.children, List.flatMap_map, List.flatMap_assoc,
    placeholdersOfJoins_eq]

private theorem placeholders_factor (value : Factor) :
    value.placeholders = value.children.flatMap placeholders := by
  cases value <;>
    simp [placeholders, Factor.placeholders, Factor.children, List.flatMap_map,
      placeholdersOfParts_eq, placeholdersOfLabel_eq, placeholdersOfArguments_eq]

private theorem placeholders_target (value : Target) :
    value.placeholders = value.children.flatMap placeholders := by
  cases value <;> simp [placeholders, Target.placeholders, Target.children]

private theorem placeholders_statement (value : Statement) :
    value.placeholders = value.children.flatMap placeholders := by
  cases value with
  | query inner => simp [placeholders, Statement.placeholders, Statement.children]
  | insert insertion =>
    cases insertion
    simp [placeholders, Statement.placeholders, Insert.placeholders, Statement.children,
      List.flatMap_map, placeholders_target, placeholdersOfParts_eq, placeholdersOfQuery_eq]
  | update change =>
    cases change
    simp [placeholders, Statement.placeholders, Update.placeholders, Statement.children,
      List.flatMap_map, placeholdersOfAssignments_eq, placeholdersOfClause_eq,
      placeholdersOfSelection_eq, placeholdersOfParts_eq]
  | delete deletion =>
    cases deletion
    simp [placeholders, Statement.placeholders, Delete.placeholders, Statement.children,
      List.flatMap_map, placeholdersOfSources_eq, placeholdersOfClause_eq,
      placeholdersOfSelection_eq, placeholdersOfParts_eq]
  | other parts =>
    simp [placeholders, Statement.placeholders, Statement.children, List.flatMap_map,
      placeholdersOfParts_eq]

/-- The placeholders of a node are its own and those of its children, in this order. -/
theorem placeholders_eq (node : Node) :
    node.placeholders = node.own ++ node.children.flatMap placeholders := by
  cases node with
  | expr value => exact placeholders_expr value
  | part value => exact placeholders_part value
  | query value => exact placeholders_query value
  | body value => exact placeholders_body value
  | source value => exact placeholders_source value
  | factor value => exact placeholders_factor value
  | statement value => exact placeholders_statement value

private theorem sizeOf_labelParts {label : Option Alias} {part : Part}
    (member : part ∈ labelParts label) : sizeOf part < sizeOf label := by
  rcases label with _ | ⟨name, columns⟩
  · cases member
  · have smaller := List.sizeOf_lt_of_mem member
    simp only [labelParts, Option.some.sizeOf_spec, Alias.mk.sizeOf_spec] at smaller ⊢
    omega

private theorem sizeOf_clause {α : Type} [SizeOf α] {clause : Option (List α)} {item : α}
    (member : item ∈ clause.getD []) : sizeOf item < sizeOf clause := by
  cases clause with
  | none => cases member
  | some items =>
    have smaller := List.sizeOf_lt_of_mem member
    simp only [Option.getD_some, Option.some.sizeOf_spec] at smaller ⊢
    omega

/-- A child is smaller than the node it stands in. -/
theorem sizeOf_lt_of_mem_children {node child : Node} (member : child ∈ node.children) :
    sizeOf child < sizeOf node := by
  cases node with
  | expr value =>
    cases value <;> grind [children, Expr.children, → List.sizeOf_lt_of_mem]
  | part value =>
    cases value <;> grind [children, Part.children]
  | query value =>
    cases value
    grind [children, Query.children, → List.sizeOf_lt_of_mem]
  | body value =>
    rcases value with ⟨⟨⟩⟩ | _ | _ | _ <;> grind [children, Body.children, → List.sizeOf_lt_of_mem]
  | source value =>
    cases value
    grind [children, Source.children, → List.sizeOf_lt_of_mem, cases Join]
  | factor value =>
    cases value <;>
      grind [children, Factor.children, → List.sizeOf_lt_of_mem, → sizeOf_labelParts,
        → sizeOf_clause]
  | statement value =>
    rcases value with _ | ⟨⟨_, ⟨⟩⟩⟩ | ⟨⟨⟩⟩ | ⟨⟨⟩⟩ | _ <;>
      grind [children, Statement.children, Target.children, → List.sizeOf_lt_of_mem,
        → sizeOf_clause, cases Assignment]

/-- What holds of a node whenever it holds of the node's children holds of every node. -/
theorem induction {motive : Node → Prop}
    (step : ∀ node, (∀ child ∈ node.children, motive child) → motive node) (node : Node) :
    motive node :=
  step node fun child _ => induction step child
termination_by sizeOf node
decreasing_by exact sizeOf_lt_of_mem_children ‹_›

theorem mem_own_iff {node : Node} {text : String} : text ∈ node.own ↔ node = placeholder text := by
  constructor
  · intro member
    rcases node with (_ | value | _) | _
    case expr.literal =>
      cases value <;> simp_all [own, Literal.placeholders, placeholder]
    all_goals cases member
  · rintro rfl
    exact List.mem_singleton_self text

/-- The inventory of a node lists exactly the placeholders that stand at its positions. -/
theorem mem_placeholders_iff {node : Node} {text : String} :
    text ∈ node.placeholders ↔ ∃ path, node.at? path = some (placeholder text) := by
  induction node using Node.induction with
  | step node ih =>
    rw [placeholders_eq, List.mem_append, mem_own_iff, List.mem_flatMap]
    constructor
    · intro given
      rcases given with rfl | ⟨child, member, inside⟩
      · exact ⟨[], rfl⟩
      · obtain ⟨path, found⟩ := (ih child member).mp inside
        obtain ⟨index, here⟩ := List.mem_iff_getElem?.mp member
        exact ⟨index :: path, by rw [at?_cons, here]; exact found⟩
    · intro given
      obtain ⟨_ | ⟨index, path⟩, found⟩ := given
      · exact .inl (Option.some.inj found)
      · obtain ⟨child, here, found⟩ := Option.bind_eq_some_iff.mp found
        have member := List.mem_of_getElem? here
        exact .inr ⟨child, member, (ih child member).mpr ⟨path, found⟩⟩

end Node
end SqlBinding
