import SqlBinding.Proofs.Reach
import SqlBinding.Proofs.Run

namespace SqlBinding

def Factor.label : Factor → Option Alias
  | .table _ label => label
  | .call _ _ _ label _ => label
  | .join _ label => label
  | .other _ label => label

/-- The aliases and the qualifiers at a node itself. -/
def Node.aliases : Node → List Ident
  | .expr (.column (qualifier :: _ :: _)) => [qualifier]
  | .factor item => item.label.toList.map Alias.name
  | .statement (.insert insertion) => insertion.label.toList
  | _ => []

/-- Some alias or qualifier in a tree has a canonical name. -/
inductive Node.Uses : Node → String → Prop where
  | here (own : ident ∈ node.aliases) : Uses node ident.canonical
  | child (member : child ∈ node.children) (inside : Uses child name) : Uses node name

theorem Node.uses_of_at? {node inner : Node} (stands : node.at? path = some inner)
    (inside : inner.Uses name) : node.Uses name := by
  induction path generalizing node with
  | nil =>
    obtain rfl := Option.some.inj stands
    exact inside
  | cons index path ih =>
    rw [Node.at?_cons] at stands
    obtain ⟨child, found, stands⟩ := Option.bind_eq_some_iff.mp stands
    exact .child (List.mem_of_getElem? found) (ih stands)

/-- The table that a reference names, if it does. -/
def Reference.qualifier? : Reference → Option String
  | .plain _ => none
  | .qualified qualifier _ => some qualifier

/-- The name of a table is looked up or declared for a step. -/
def Step.Names (name : String) : Step → Prop
  | .compare declarations _ reference _ =>
    name ∈ declarations.map Prod.fst ∨ reference.qualifier? = some name
  | _ => False

theorem Expr.uses_of_bare {expr : Expr} (bare : expr.bare = enclosed)
    (inside : (Node.expr enclosed).Uses name) : (Node.expr expr).Uses name :=
  Node.uses_of_at? (Expr.at?_of_bare bare) inside

theorem Query.uses_of_core {query : Query} {innermost : Body} (core : query.core = innermost)
    (inside : (Node.body innermost).Uses name) : (Node.query query).Uses name := by
  have stands : (Node.query query).at? (query.layers ++ []) = some (.body innermost) := by
    rw [query.at?_layers, core]
    rfl
  exact Node.uses_of_at? stands inside

theorem JsonChain.uses (chain : JsonChain expr parts keys asText)
    (inside : (Node.expr (.column parts)).Uses name) : (Node.expr expr).Uses name := by
  induction chain with
  | first bare access key column =>
    exact Expr.uses_of_bare bare (.child List.mem_cons_self (Expr.uses_of_bare column inside))
  | next bare access key chain ih =>
    exact Expr.uses_of_bare bare (.child List.mem_cons_self (ih inside))

theorem Reference.uses {parts : Name} (found : Reference.of? parts = some reference)
    (qualified : reference.qualifier? = some name) : (Node.expr (.column parts)).Uses name := by
  match parts with
  | [] => cases found
  | [column] =>
    obtain rfl := Option.some.inj found
    cases qualified
  | qualifier :: column :: rest =>
    obtain rfl := Option.some.inj found
    obtain rfl := Option.some.inj qualified
    exact .here List.mem_cons_self

theorem compare_notMem_nameSteps (name : Name) :
    .compare declarations param reference accessor ∉ nameSteps name := by
  unfold nameSteps
  split <;> simp

theorem names_of_resolveSteps {parts : Name} {next : Reference → List Step}
    (member : step ∈ resolveSteps parts next) (named : step.Names name) :
    ∃ reference, Reference.of? parts = some reference ∧ step ∈ next reference := by
  rcases List.mem_append.mp member with long | found
  · split at long
    · obtain rfl := List.mem_singleton.mp long
      cases named
    · cases long
  · split at found
    case h_1 reference same => exact ⟨reference, same, found⟩
    case h_2 none =>
      obtain rfl := List.mem_singleton.mp found
      cases named

theorem names_of_comparisonSteps {left right : Expr}
    (member : step ∈ comparisonSteps (.of left) (.of right)) (named : step.Names name) :
    (Node.expr left).Uses name := by
  cases rightForm : Operand.of right with
  | param ordinal =>
    cases leftForm : Operand.of left with
    | column parts =>
      rw [leftForm, rightForm] at member
      obtain ⟨reference, found, member⟩ := names_of_resolveSteps member named
      obtain rfl := List.mem_singleton.mp member
      exact Expr.uses_of_bare (Operand.of_eq_column_iff.mp leftForm)
        (Reference.uses found (named.resolve_left List.not_mem_nil))
    | json parts accessor =>
      rw [leftForm, rightForm] at member
      obtain ⟨reference, found, member⟩ := names_of_resolveSteps member named
      obtain rfl := List.mem_singleton.mp member
      obtain ⟨keys, asText, chain, -⟩ := Operand.of_eq_json_iff.mp leftForm
      exact chain.uses (Reference.uses found (named.resolve_left List.not_mem_nil))
    | _ =>
      rw [leftForm, rightForm] at member
      obtain rfl := List.mem_singleton.mp member
      cases named
  | column parts =>
    rw [rightForm] at member
    cases leftForm : Operand.of left <;> rw [leftForm] at member <;> cases member
  | _ =>
    rw [rightForm] at member
    cases leftForm : Operand.of left
    all_goals
      rw [leftForm] at member
      obtain rfl := List.mem_singleton.mp member
      cases named

theorem names_of_listSteps {needle : Expr} (member : step ∈ listSteps (.of needle) items)
    (named : step.Names name) : (Node.expr needle).Uses name := by
  cases form : Operand.of needle with
  | column parts =>
    rw [form] at member
    obtain ⟨reference, found, member⟩ := names_of_resolveSteps member named
    obtain ⟨item, -, inside⟩ := List.mem_flatMap.mp member
    refine Expr.uses_of_bare (Operand.of_eq_column_iff.mp form) (Reference.uses found ?_)
    cases content : Operand.of item with
    | param ordinal =>
      rw [content] at inside
      obtain rfl := List.mem_singleton.mp inside
      exact named.resolve_left List.not_mem_nil
    | placeholder text =>
      rw [content] at inside
      obtain rfl := List.mem_singleton.mp inside
      cases named
    | _ =>
      rw [content] at inside
      cases inside
  | _ =>
    rw [form] at member
    obtain rfl := List.mem_singleton.mp member
    cases named

mutual

theorem Factor.uses_key : ∀ (factor : Factor) (table : Table), table ∈ factor.tables →
    table.key = "" ∨ (Node.factor factor).Uses table.key
  | .table name label, table, member => by
    rw [Factor.tables] at member
    obtain rfl := List.mem_singleton.mp member
    cases label with
    | none => exact .inl rfl
    | some label => exact .inr (.here List.mem_cons_self)
  | .call name _ _ label _, table, member => by
    rw [Factor.tables] at member
    obtain rfl := List.mem_singleton.mp member
    cases label with
    | none => exact .inl rfl
    | some label => exact .inr (.here List.mem_cons_self)
  | .join inner _, table, member => by
    rw [Factor.tables] at member
    exact (inner.uses_key table member).imp_right (.child List.mem_cons_self)
  | .other _ _, table, member => by
    rw [Factor.tables] at member
    cases member

theorem Source.uses_key : ∀ (source : Source) (table : Table), table ∈ source.tables →
    table.key = "" ∨ (Node.source source).Uses table.key
  | ⟨factor, joins⟩, table, member => by
    rw [Source.tables] at member
    rcases List.mem_append.mp member with own | joined
    · exact (factor.uses_key table own).imp_right (.child List.mem_cons_self)
    · refine (uses_key_of_joins joins table joined).imp_right fun ⟨join, listed, inside⟩ => ?_
      refine .child (List.mem_cons_of_mem _ (List.mem_flatMap.mpr ⟨join, listed, ?_⟩)) inside
      exact List.mem_cons_self

theorem uses_key_of_joins : ∀ (joins : List Join) (table : Table), table ∈ tablesOfJoins joins →
    table.key = "" ∨ ∃ join ∈ joins, (Node.factor join.factor).Uses table.key
  | [], table, member => by
    rw [tablesOfJoins] at member
    cases member
  | ⟨keyword, factor, condition⟩ :: rest, table, member => by
    rw [tablesOfJoins] at member
    rcases List.mem_append.mp member with own | later
    · exact (factor.uses_key table own).imp_right fun inside => ⟨_, List.mem_cons_self, inside⟩
    · refine (uses_key_of_joins rest table later).imp_right fun ⟨join, listed, inside⟩ => ?_
      exact ⟨join, List.mem_cons_of_mem _ listed, inside⟩

end

/-- A step of a clause that looks up a reference does so inside the tables of the clause. -/
theorem compare_mem_clauseSteps {tables : List Table} {steps : List Step}
    (member : .compare declarations param reference accessor ∈ clauseSteps tables steps) :
    ∃ inner, .compare inner param reference accessor ∈ steps ∧
      declarations = tables.filterMap Table.declaration? ++ inner := by
  rcases List.mem_append.mp member with unnamed | inside
  · obtain ⟨table, -, failing⟩ := List.mem_flatMap.mp unnamed
    exact absurd failing (compare_notMem_nameSteps _)
  · obtain ⟨step, listed, same⟩ := List.mem_map.mp inside
    cases step with
    | compare inner =>
      obtain ⟨rfl, rfl, rfl, rfl⟩ := Step.compare.inj same
      exact ⟨inner, listed, rfl⟩
    | _ => cases same

theorem exists_key {tables : List Table}
    (declared : name ∈ (tables.filterMap Table.declaration?).map Prod.fst) :
    ∃ table ∈ tables, table.key = name := by
  obtain ⟨entry, member, rfl⟩ := List.mem_map.mp declared
  obtain ⟨table, listed, declared⟩ := List.mem_filterMap.mp member
  obtain ⟨relation, -, rfl⟩ := Option.map_eq_some_iff.mp declared
  exact ⟨table, listed, rfl⟩

/-- The names in the steps of a clause are those of its tables, and those in the clause itself. -/
theorem names_of_clauseSteps {tables : List Table} (member : step ∈ clauseSteps tables steps)
    (named : step.Names name) :
    (∃ table ∈ tables, table.key = name) ∨ ∃ inner ∈ steps, inner.Names name := by
  cases step with
  | compare declarations param reference accessor =>
    obtain ⟨inner, listed, rfl⟩ := compare_mem_clauseSteps member
    rcases named with declared | qualified
    · rw [List.map_append, List.mem_append] at declared
      exact declared.imp exists_key fun inside => ⟨_, listed, .inl inside⟩
    · exact .inr ⟨_, listed, .inr qualified⟩
  | _ => cases named

/-- The names in the steps of a SELECT are empty or used in it. -/
theorem Select.names_of_steps (block : Select)
    (condition : ∀ condition, block.selection = some condition →
      ∀ step ∈ condition.steps, step.Names name → name = "" ∨ (Node.expr condition).Uses name)
    (member : step ∈ block.steps) (named : step.Names name) :
    name = "" ∨ (Node.body (.select block)).Uses name := by
  rw [Select.steps_eq] at member
  rcases names_of_clauseSteps member named with ⟨table, listed, rfl⟩ | ⟨inner, listed, named⟩
  · obtain ⟨source, declared, own⟩ := List.mem_flatMap.mp listed
    refine (source.uses_key table own).imp_right (.child ?_)
    simp [Node.children, Body.children, declared]
  · cases clause : block.selection with
    | none =>
      rw [clause, selectionSteps] at listed
      cases listed
    | some predicate =>
      rw [clause, selectionSteps] at listed
      refine (condition predicate clause inner listed named).imp_right (.child ?_)
      simp [Node.children, Body.children, clause]

theorem Expr.names_of_steps (root : Expr) :
    ∀ step ∈ root.steps, step.Names name → name = "" ∨ (Node.expr root).Uses name := by
  induction root using Expr.walk_induction with
  | nested inner ih =>
    intro step member named
    rw [Expr.steps] at member
    exact (ih step member named).imp_right (.child List.mem_cons_self)
  | negation operand ih =>
    intro step member named
    rw [Expr.steps] at member
    exact (ih step member named).imp_right (.child List.mem_cons_self)
  | logical connective left right ihLeft ihRight =>
    intro step member named
    rw [Expr.steps] at member
    rcases List.mem_append.mp member with first | second
    · exact (ihLeft step first named).imp_right (.child List.mem_cons_self)
    · exact (ihRight step second named).imp_right (.child (by simp [Node.children, Expr.children]))
  | binary op left right ih =>
    intro step member named
    by_cases operand : ∃ query, right.bare = .subquery query
    · obtain ⟨query, operand⟩ := operand
      rw [steps_of_subquery operand] at member
      cases form : query.core with
      | query inner => exact absurd form (query.core_ne_query inner)
      | select block =>
        rw [form, Body.steps] at member
        have inside := block.names_of_steps
          (fun condition clause => ih query block condition ⟨operand, form, clause⟩) member named
        refine inside.imp_right fun inside => ?_
        have second : (Node.expr right).Uses name := Expr.uses_of_bare operand
          (.child List.mem_cons_self (Query.uses_of_core form inside))
        exact .child (by simp [Node.children, Expr.children]) second
      | values | phrase =>
        rw [form, Body.steps] at member
        obtain rfl := List.mem_singleton.mp member
        cases named
    · rw [steps_of_comparison (not_exists.mp operand)] at member
      exact .inr (.child List.mem_cons_self (names_of_comparisonSteps member named))
  | inList negated needle items =>
    intro step member named
    rw [Expr.steps] at member
    exact .inr (.child List.mem_cons_self (names_of_listSteps member named))
  | isNull =>
    intro step member named
    rw [Expr.steps] at member
    cases member
  | column | literal | subquery | phrase =>
    intro step member named
    rw [Expr.steps] at member
    obtain rfl := List.mem_singleton.mp member
    cases named

namespace Statement

/-- The scope of the WHERE clause of a statement. -/
def outerScope : Statement → Walk Scope
  | .query asked =>
    match asked.core with
    | .select block => Scope.nested none block.sources
    | _ => return .empty
  | .update change => change.scope
  | .delete deletion => deletion.scope
  | .insert _ | .other _ => return .empty

/-- The tables of that scope. -/
def outerTables : Statement → List Table
  | .query asked =>
    match asked.core with
    | .select block => tablesOf block.sources
    | _ => []
  | .update change => change.scopeTables
  | .delete deletion => deletion.scopeTables
  | .insert _ | .other _ => []

/-- The WHERE clause of a statement itself. -/
def condition? : Statement → Option Expr
  | .query asked =>
    match asked.core with
    | .select block => block.selection
    | _ => none
  | .update change => change.selection
  | .delete deletion => deletion.selection
  | .insert _ | .other _ => none

theorem outerScope_alike (statement : Statement) :
    Walk.Alike statement.outerScope (Scope.empty.withTables statement.outerTables) := by
  cases statement with
  | query asked =>
    simp only [outerScope, outerTables]
    cases asked.core with
    | select block => exact nested_alike none block.sources
    | _ => exact .refl _
  | update change => exact change.scope_alike
  | delete deletion => exact deletion.scope_alike
  | insert insertion => exact .refl _
  | other parts => exact .refl _

/-- A reference is looked up only for the sake of the WHERE clause, inside the outermost scope. -/
theorem compare_mem_steps {statement : Statement}
    (member : .compare declarations param reference accessor ∈ statement.steps) :
    ∃ condition inner, statement.condition? = some condition ∧
      .compare inner param reference accessor ∈ condition.steps ∧
      declarations = statement.outerTables.filterMap Table.declaration? ++ inner := by
  have selected {tables : List Table} {selection : Option Expr}
      (member : .compare declarations param reference accessor ∈
        clauseSteps tables (selectionSteps selection)) :
      ∃ condition inner, selection = some condition ∧
        .compare inner param reference accessor ∈ condition.steps ∧
        declarations = tables.filterMap Table.declaration? ++ inner := by
    obtain ⟨inner, listed, same⟩ := compare_mem_clauseSteps member
    cases selection with
    | none =>
      rw [selectionSteps] at listed
      cases listed
    | some condition =>
      rw [selectionSteps] at listed
      exact ⟨condition, inner, rfl, listed, same⟩
  cases statement with
  | query asked =>
    rw [steps, asked.steps_core] at member
    cases form : asked.core with
    | query inner => exact absurd form (asked.core_ne_query inner)
    | select block =>
      rw [form, Body.steps, Select.steps_eq] at member
      simp only [condition?, outerTables, form]
      exact selected member
    | values | phrase =>
      rw [form, Body.steps] at member
      cases List.mem_singleton.mp member
  | update change =>
    rw [steps, Update.steps] at member
    split at member
    case h_1 none => cases List.mem_singleton.mp member
    case h_2 name target =>
      rw [List.mem_append, List.mem_append] at member
      rcases member with (unnamed | assigned) | compared
      · exact absurd unnamed (compare_notMem_nameSteps name)
      · obtain ⟨assignment, -, stored⟩ := List.mem_flatMap.mp assigned
        exact absurd stored (Update.compare_notMem_assignmentSteps _ assignment)
      · unfold Update.conditionSteps at compared
        split at compared
        case h_1 none => cases compared
        case h_2 condition clause =>
          obtain ⟨inner, listed, same⟩ := compare_mem_clauseSteps compared
          exact ⟨condition, inner, clause, listed, same⟩
  | delete deletion => exact selected member
  | insert insertion =>
    rw [steps, Insert.steps] at member
    split at member
    · rcases List.mem_append.mp member with unnamed | stored
      · exact absurd unnamed (compare_notMem_nameSteps _)
      · rcases Insert.mem_sourceSteps stored with ⟨kind, same⟩ | ⟨param, column, same⟩ <;> cases same
    · cases List.mem_singleton.mp member
  | other parts => cases List.mem_singleton.mp member

/-- The names of the outermost tables are empty or used in the statement. -/
theorem uses_key {statement : Statement} (listed : table ∈ statement.outerTables) :
    table.key = "" ∨ (Node.statement statement).Uses table.key := by
  cases statement with
  | query asked =>
    cases form : asked.core with
    | select block =>
      simp only [outerTables, form] at listed
      obtain ⟨source, member, own⟩ := List.mem_flatMap.mp listed
      refine (source.uses_key table own).imp_right fun inside =>
        .child List.mem_cons_self (Query.uses_of_core form (.child ?_ inside))
      simp [Node.children, Body.children, member]
    | _ =>
      simp only [outerTables, form] at listed
      cases listed
  | update change =>
    obtain ⟨source, member, own⟩ := List.mem_flatMap.mp listed
    refine (source.uses_key table own).imp_right (.child ?_)
    rcases List.mem_cons.mp member with rfl | later
    · exact List.mem_cons_self
    · simp [Node.children, Statement.children, later]
  | delete deletion =>
    simp only [outerTables, Delete.scopeTables] at listed
    split at listed
    case h_1 none => cases listed
    case h_2 first rest sources =>
      refine (first.factor.uses_key table listed).imp_right fun inside => ?_
      have item : (Node.source first).Uses table.key := .child List.mem_cons_self inside
      refine .child ?_ item
      simp [Node.children, Statement.children, sources]
  | insert insertion => cases listed
  | other parts => cases listed

theorem uses_of_condition {statement : Statement} (clause : statement.condition? = some condition)
    (inside : (Node.expr condition).Uses name) : (Node.statement statement).Uses name := by
  cases statement with
  | query asked =>
    cases form : asked.core with
    | select block =>
      simp only [condition?, form] at clause
      refine .child List.mem_cons_self (Query.uses_of_core form (.child ?_ inside))
      simp [Node.children, Body.children, clause]
    | _ =>
      simp only [condition?, form] at clause
      cases clause
  | update change =>
    refine .child ?_ inside
    simp [Node.children, Statement.children, show change.selection = some condition from clause]
  | delete deletion =>
    refine .child ?_ inside
    simp [Node.children, Statement.children, show deletion.selection = some condition from clause]
  | insert insertion => cases clause
  | other parts => cases clause

theorem names_of_steps {statement : Statement} (member : step ∈ statement.steps)
    (named : step.Names name) : name = "" ∨ (Node.statement statement).Uses name := by
  cases step with
  | compare declarations param reference accessor =>
    obtain ⟨condition, inner, clause, listed, rfl⟩ := compare_mem_steps member
    have inside (named : (Step.compare inner param reference accessor).Names name) :
        name = "" ∨ (Node.statement statement).Uses name :=
      (condition.names_of_steps _ listed named).imp_right (uses_of_condition clause)
    rcases named with declared | qualified
    · rw [List.map_append, List.mem_append] at declared
      rcases declared with outer | own
      · obtain ⟨table, listed, rfl⟩ := exists_key outer
        exact uses_key listed
      · exact inside (.inl own)
    · exact inside (.inr qualified)
  | _ => cases named

end Statement

end SqlBinding
