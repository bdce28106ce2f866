import SqlBinding.Analysis
import SqlBinding.Proofs.Site
import SqlBinding.Proofs.StatementBindings

/-! Bound parameters and inventoried parameters. The bindings of a statement come from a walk that
visits a few kinds of places, the inventory from one that visits all of the tree; every place where a
parameter is bound is a position in the tree, so what is bound is also inventoried.
-/

namespace SqlBinding

/-- A parameter stands somewhere in a node. -/
def Node.Holds (node : Node) (param : Param) : Prop := ∃ path, node.Occurs path param

theorem Node.holds_of_child {node child : Node} (member : child ∈ node.children)
    (held : child.Holds param) : node.Holds param := by
  obtain ⟨index, listed⟩ := List.mem_iff_getElem?.mp member
  obtain ⟨path, text, here, numbered⟩ := held
  exact ⟨index :: path, text, by rw [Node.at?_cons, listed]; exact here, numbered⟩

/-- The inventory of a statement is what stands in it. -/
theorem Statement.mem_params_iff (statement : Statement) (param : Param) :
    param ∈ statement.params.toList ↔ (Node.statement statement).Holds param := by
  rw [Statement.params, ParamSet.mem_ofList, List.mem_filterMap]
  constructor
  · intro given
    obtain ⟨text, member, numbered⟩ := given
    have listed : text ∈ (Node.statement statement).placeholders := member
    obtain ⟨path, here⟩ := Node.mem_placeholders_iff.mp listed
    exact ⟨path, text, here, numbered⟩
  · intro given
    obtain ⟨path, text, here, numbered⟩ := given
    exact ⟨text, Node.mem_placeholders_iff.mpr ⟨path, here⟩, numbered⟩

theorem Operand.holds_of_param {expr : Expr} (ordinal : Operand.of expr = .param number) :
    (Node.expr expr).Holds number := by
  obtain ⟨text, bare, numbered⟩ := Operand.of_eq_param_iff.mp ordinal
  exact ⟨expr.parens, text, Expr.at?_of_bare bare, numbered⟩

theorem Expr.holds_of_binding {expr : Expr} {scope : Scope} {param : Param} {column : Column}
    (walked : (expr.bindings scope).outcome = .ok found) (member : (param, column) ∈ found) :
    (Node.expr expr).Holds param := by
  obtain ⟨path, site⟩ := ((survey expr scope found walked).mem_iff param column).mp member
  exact ⟨path, site.occurs⟩

theorem Query.holds_of_binding {query : Query} {parent : Option Scope} {param : Param}
    {column : Column} (walked : (query.bindings parent).outcome = .ok found)
    (member : (param, column) ∈ found) : (Node.query query).Holds param := by
  rw [Query.bindings_core] at walked
  rcases Query.bindings_eq_nil_or walked with rfl | ⟨block, condition, form, clause⟩
  · cases member
  · rw [form] at walked
    obtain ⟨inner, -, continued, -⟩ := bindings_select_ok clause walked
    obtain ⟨path, text, here, numbered⟩ := Expr.holds_of_binding continued member
    refine ⟨query.layers ++ block.conditionIndex :: path, text, ?_, numbered⟩
    rw [Query.at?_layers, form, Select.at?_condition clause]
    exact here

theorem Insert.holds_of_binding {insertion : Insert} {param : Param} {column : Column}
    (walked : insertion.bindings.outcome = .ok found) (member : (param, column) ∈ found) :
    (Node.statement (.insert insertion)).Holds param := by
  obtain ⟨source, row, marked, stored, form, cell, listed, ordinal⟩ :=
    Insert.mem_bindings walked member
  have inRow : (Node.body source.body).Holds param := by
    refine Node.holds_of_child ?_ (Operand.holds_of_param ordinal)
    simpa [form, Node.children, Body.children] using listed
  have inSource : (Node.query source).Holds param :=
    Node.holds_of_child (by simp [Node.children, Query.children]) inRow
  exact Node.holds_of_child (by simp [Node.children, Statement.children, stored]) inSource

theorem Update.holds_of_binding {change : Update} {param : Param} {column : Column}
    (walked : change.bindings.outcome = .ok found) (member : (param, column) ∈ found) :
    (Node.statement (.update change)).Holds param := by
  cases table : change.table? with
  | none =>
    rw [Update.bindings, table] at walked
    obtain rfl := Except.ok.inj walked
    cases member
  | some name =>
    obtain ⟨relation, stored, compared, -, assigned, rfl, rest⟩ := Update.bindings_ok table walked
    rcases List.mem_append.mp member with early | late
    · obtain ⟨assignment, listed, own, done, inside⟩ := Walk.mem_of_gather_ok assigned early
      have ordinal := Update.mem_assignmentBindings done inside
      refine Node.holds_of_child ?_ (Operand.holds_of_param ordinal)
      simp only [Node.children, Statement.children, List.mem_append, List.mem_cons, List.mem_map]
      exact .inl (.inl (.inl (.inr ⟨assignment, listed, rfl⟩)))
    · rcases rest with ⟨-, rfl⟩ | ⟨condition, scope, clause, -, continued⟩
      · cases late
      · refine Node.holds_of_child ?_ (Expr.holds_of_binding continued late)
        simp [Node.children, Statement.children, clause]

theorem Delete.holds_of_binding {deletion : Delete} {param : Param} {column : Column}
    (walked : deletion.bindings.outcome = .ok found) (member : (param, column) ∈ found) :
    (Node.statement (.delete deletion)).Holds param := by
  obtain ⟨scope, -, walked⟩ := Walk.bind_ok_iff.mp walked
  rw [Walk.outcome_bind (Walk.outcome_emit _)] at walked
  cases clause : deletion.selection with
  | none =>
    rw [clause, selectionBindings] at walked
    obtain rfl := Except.ok.inj walked
    cases member
  | some condition =>
    rw [clause, selectionBindings] at walked
    refine Node.holds_of_child ?_ (Expr.holds_of_binding walked member)
    simp [Node.children, Statement.children, clause]

theorem Statement.holds_of_binding {statement : Statement} {param : Param} {column : Column}
    (walked : statement.bindings.outcome = .ok found) (member : (param, column) ∈ found) :
    (Node.statement statement).Holds param := by
  cases statement with
  | query inner =>
    refine Node.holds_of_child ?_ (Query.holds_of_binding walked member)
    simp [Node.children, Statement.children]
  | insert insertion => exact Insert.holds_of_binding walked member
  | update change => exact Update.holds_of_binding walked member
  | delete deletion => exact Delete.holds_of_binding walked member
  | other parts =>
    obtain rfl := Except.ok.inj walked
    cases member

theorem Statement.analyze_ok_iff {statement : Statement} :
    statement.analyze.outcome = .ok analysis ↔
      ∃ found, statement.bindings.outcome = .ok found ∧
        analysis = .ofBindings statement statement.bindings found := by
  rw [Statement.analyze, Walk.outcome_bind (Walk.outcome_emit _), Walk.bind_ok_iff]
  constructor
  · intro given
    obtain ⟨found, walked, done⟩ := given
    exact ⟨found, walked, (Except.ok.inj done).symm⟩
  · intro given
    obtain ⟨found, walked, rfl⟩ := given
    exact ⟨found, walked, rfl⟩

theorem Analysis.mem_unbound_iff (analysis : Analysis) (param : Param) :
    param ∈ analysis.unbound ↔
      param ∈ analysis.placeholders.toList ∧ param ∉ analysis.params.keys := by
  rw [Analysis.unbound, List.mem_filter, Bool.not_eq_true', ← Bool.not_eq_true,
    ParamMap.contains_iff]

/-- The parameters of a statement that is analyzed with success are those that stand in it. The bound
ones are among them, and the others are the unbound ones. -/
theorem Statement.bound_or_unbound {statement : Statement} {analysis : Analysis}
    (analyzed : statement.analyze.outcome = .ok analysis) :
    (∀ param, param ∈ analysis.placeholders.toList ↔ (Node.statement statement).Holds param) ∧
      (∀ param ∈ analysis.params.keys, param ∈ analysis.placeholders.toList) ∧
      (∀ param ∈ analysis.params.keys, param ∉ analysis.unbound) ∧
      ∀ param, param ∈ analysis.placeholders.toList ↔
        param ∈ analysis.params.keys ∨ param ∈ analysis.unbound := by
  obtain ⟨found, walked, rfl⟩ := Statement.analyze_ok_iff.mp analyzed
  have inventoried (param) (bound : param ∈ (ParamMap.ofList found).keys) :
      param ∈ statement.params.toList := by
    obtain ⟨column, member⟩ := (ParamMap.mem_keys_ofList found param).mp bound
    exact (statement.mem_params_iff param).mpr (Statement.holds_of_binding walked member)
  refine ⟨statement.mem_params_iff, inventoried, ?_, ?_⟩
  · intro param bound unbound
    exact ((Analysis.mem_unbound_iff _ param).mp unbound).2 bound
  · intro param
    rw [Analysis.mem_unbound_iff]
    constructor
    · intro present
      by_cases bound : param ∈ (ParamMap.ofList found).keys
      · exact .inl bound
      · exact .inr ⟨present, bound⟩
    · intro given
      rcases given with bound | ⟨present, -⟩
      · exact inventoried param bound
      · exact present

/-- `UPDATE "t" SET "a" = ($1) WHERE "b" = $2 AND $3 IS NULL` -/
def partlyBound : Statement :=
  .update {
    opening := "UPDATE "
    target := ⟨.table [⟨"t", some .double⟩] none, []⟩
    assignments := [⟨.column [⟨"a", some .double⟩], .nested (.literal (.placeholder "$1"))⟩]
    sources := none
    sourcesFirst := false
    selection := some (.logical .and
      (.binary (.symbol "=") (.column [⟨"b", some .double⟩]) (.literal (.placeholder "$2")))
      (.isNull false (.literal (.placeholder "$3"))))
    closing := [] }

/-- A parameter that is stored, one that is compared and one that is only tested for NULL. -/
theorem Statement.bound_or_unbound_update :
    ∃ analysis, partlyBound.analyze.outcome = .ok analysis ∧
      analysis.params.keys.map Param.number = [1, 2] ∧ analysis.unbound.map Param.number = [3] ∧
      ∀ param, param ∈ analysis.placeholders.toList ↔
        param ∈ analysis.params.keys ∨ param ∈ analysis.unbound := by
  have walked : partlyBound.bindings.outcome =
      .ok [(⟨1, by decide, by decide⟩, { relation := ⟨none, "t"⟩, name := "a" }),
        (⟨2, by decide, by decide⟩, { relation := ⟨none, "t"⟩, name := "b" })] := rfl
  have analyzed := Statement.analyze_ok_iff.mpr ⟨_, walked, rfl⟩
  exact ⟨_, analyzed, rfl, rfl, (Statement.bound_or_unbound analyzed).2.2.2⟩

end SqlBinding
