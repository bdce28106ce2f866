import SqlBinding.Analysis
import SqlBinding.Proofs.Predicate

namespace SqlBinding

namespace Expr

/-- An expression that is a parameter, perhaps in parentheses. -/
def IsParam (expr : Expr) (param : Param) : Prop :=
  ∃ text, expr.bare = .literal (.placeholder text) ∧ Param.ofText? text = some param

theorem isParam_iff {expr : Expr} {param : Param} :
    expr.IsParam param ↔ Operand.of expr = .param param := Operand.of_eq_param_iff.symm

/-- The report on a value that is stored: on a placeholder that is no ordinal, and on an ordinal for
which there is no place. -/
def storedReport? (value : Expr) (placed : Bool) : Option Warning :=
  match value.bare with
  | .literal (.placeholder text) =>
    match Param.ofText? text with
    | none => some ⟨.placeholder, text⟩
    | some _ => if placed then none else some ⟨.columnTypeInSelectClause, value.render⟩
  | _ => none

section
variable {value : Expr}

theorem storedReport?_of_param (operand : Operand.of value = .param param) (placed : Bool) :
    value.storedReport? placed =
      if placed then none else some ⟨.columnTypeInSelectClause, value.render⟩ := by
  obtain ⟨text, bare, numbered⟩ := Operand.of_eq_param_iff.mp operand
  simp only [storedReport?, bare, numbered]

theorem storedReport?_of_placeholder (operand : Operand.of value = .placeholder text)
    (placed : Bool) : value.storedReport? placed = some ⟨.placeholder, text⟩ := by
  obtain ⟨bare, unnumbered⟩ := Operand.of_eq_placeholder_iff.mp operand
  simp only [storedReport?, bare, unnumbered]

theorem storedReport?_of_other (noParam : ∀ param, Operand.of value ≠ .param param)
    (noPlaceholder : ∀ text, Operand.of value ≠ .placeholder text) (placed : Bool) :
    value.storedReport? placed = none := by
  unfold storedReport?
  split
  case h_1 text bare =>
    cases numbered : Param.ofText? text with
    | none =>
      exact absurd (Operand.of_eq_placeholder_iff.mpr ⟨bare, numbered⟩) (noPlaceholder text)
    | some param =>
      exact absurd (Operand.of_eq_param_iff.mpr ⟨text, bare, numbered⟩) (noParam param)
  case h_2 => rfl

end
end Expr

namespace Insert

theorem mem_cellBindings {target : Option Ident} {param : Param} {bound : Column}
    (walked : (cellBindings relation target cell).outcome = .ok found)
    (member : (param, bound) ∈ found) : Operand.of cell = .param param := by
  unfold cellBindings at walked
  split at walked
  case h_1 ordinal column operand =>
    obtain rfl := Except.ok.inj walked
    obtain ⟨rfl, -⟩ := Prod.mk.inj (List.mem_singleton.mp member)
    exact operand
  all_goals
    obtain rfl := Except.ok.inj walked
    cases member

theorem mem_rowBindings {columns : List Ident} {param : Param} {bound : Column}
    (walked : (rowBindings relation columns row).outcome = .ok found)
    (member : (param, bound) ∈ found) : ∃ cell ∈ row, Operand.of cell = .param param := by
  induction row generalizing columns found with
  | nil =>
    rw [rowBindings] at walked
    obtain rfl := Except.ok.inj walked
    cases member
  | cons cell row ih =>
    rw [rowBindings] at walked
    obtain ⟨own, first, walked⟩ := Walk.bind_ok_iff.mp walked
    obtain ⟨others, rest, walked⟩ := Walk.bind_ok_iff.mp walked
    obtain rfl := Except.ok.inj walked
    rcases List.mem_append.mp member with early | late
    · exact ⟨cell, List.mem_cons_self, mem_cellBindings first early⟩
    · obtain ⟨later, listed, ordinal⟩ := ih rest late
      exact ⟨later, List.mem_cons_of_mem cell listed, ordinal⟩

theorem singleRow?_eq_some_iff {source : Query} :
    singleRow? source = some row ↔ ∃ marked, source.body = .values [row] marked := by
  unfold singleRow?
  split
  case h_1 only marked form => simp [form, eq_comm]
  case h_2 other =>
    constructor
    · intro found
      cases found
    · intro given
      obtain ⟨marked, form⟩ := given
      exact absurd form (other row marked)

theorem mem_sourceBindings {columns : List Ident} {stored : Option Query} {param : Param}
    {bound : Column} (walked : (sourceBindings relation columns stored).outcome = .ok found)
    (member : (param, bound) ∈ found) :
    ∃ source row marked, stored = some source ∧ source.body = .values [row] marked ∧
      ∃ cell ∈ row, Operand.of cell = .param param := by
  unfold sourceBindings at walked
  split at walked
  case h_1 =>
    obtain rfl := Except.ok.inj walked
    cases member
  case h_2 source =>
    split at walked
    case h_1 row first rest single =>
      obtain ⟨marked, body⟩ := singleRow?_eq_some_iff.mp single
      exact ⟨source, row, marked, rfl, body, mem_rowBindings walked member⟩
    case h_2 =>
      obtain rfl := Except.ok.inj walked
      cases member

/-- An INSERT binds only parameters in the single row that it stores. -/
theorem mem_bindings {insertion : Insert} {param : Param} {bound : Column}
    (walked : insertion.bindings.outcome = .ok found) (member : (param, bound) ∈ found) :
    ∃ source row marked, insertion.source = some source ∧ source.body = .values [row] marked ∧
      ∃ cell ∈ row, Operand.of cell = .param param := by
  unfold bindings at walked
  split at walked
  case h_1 name target =>
    obtain ⟨relation, -, walked⟩ := Walk.bind_ok_iff.mp walked
    rw [Walk.outcome_bind (Walk.outcome_emit _)] at walked
    exact mem_sourceBindings walked member
  case h_2 call target =>
    obtain rfl := Except.ok.inj walked
    cases member

end Insert

namespace Update

theorem mem_assignmentBindings {param : Param} {bound : Column}
    (walked : (assignmentBindings relation assignment).outcome = .ok found)
    (member : (param, bound) ∈ found) : Operand.of assignment.value = .param param := by
  unfold assignmentBindings at walked
  split at walked
  case h_1 names target =>
    obtain rfl := Except.ok.inj walked
    cases member
  case h_2 name target =>
    split at walked
    case h_1 ordinal operand =>
      obtain ⟨column, -, walked⟩ := Walk.bind_ok_iff.mp walked
      obtain rfl := Except.ok.inj walked
      obtain ⟨rfl, -⟩ := Prod.mk.inj (List.mem_singleton.mp member)
      exact operand
    all_goals
      obtain rfl := Except.ok.inj walked
      cases member

/-- An UPDATE of a table, if its walk succeeds, binds what its assignments bind and then what its WHERE
clause binds. -/
theorem bindings_ok {change : Update} (table : change.table? = some name)
    (walked : change.bindings.outcome = .ok found) :
    ∃ relation stored compared, Relation.ofName? name = some relation ∧
      (Walk.gather (assignmentBindings relation) change.assignments).outcome = .ok stored ∧
      found = stored ++ compared ∧
      ((change.selection = none ∧ compared = []) ∨
        ∃ condition scope, change.selection = some condition ∧
          change.scope.outcome = .ok scope ∧ (condition.bindings scope).outcome = .ok compared) := by
  rw [bindings, table] at walked
  obtain ⟨relation, known, walked⟩ := Walk.bind_ok_iff.mp walked
  rw [Walk.outcome_bind (Walk.outcome_emit _)] at walked
  obtain ⟨stored, assigned, walked⟩ := Walk.bind_ok_iff.mp walked
  rw [Walk.require_ok_iff] at known
  cases clause : change.selection with
  | none =>
    rw [clause] at walked
    obtain rfl := Except.ok.inj walked
    exact ⟨relation, stored, [], known, assigned, by simp, .inl ⟨rfl, rfl⟩⟩
  | some condition =>
    rw [clause] at walked
    obtain ⟨scope, entered, walked⟩ := Walk.bind_ok_iff.mp walked
    obtain ⟨compared, continued, walked⟩ := Walk.bind_ok_iff.mp walked
    obtain rfl := Except.ok.inj walked
    exact ⟨relation, stored, compared, known, assigned, rfl,
      .inr ⟨condition, scope, rfl, entered, continued⟩⟩

end Update

end SqlBinding
