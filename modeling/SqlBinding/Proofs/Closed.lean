import SqlBinding.Proofs.Leaves
import SqlBinding.Proofs.Run

/-! Closed queries. If every reference that the walk of a query looks up finds its key in the FROM
clauses inside the query, the scope around the query has no say in its bindings. It never has a say in
what is reported, nor in whether the walk fails.
-/

namespace SqlBinding

/-- A reference that the walk looks up at a predicate: on the left of a comparison with an ordinal
placeholder, perhaps under field accesses, or in front of an IN list. -/
inductive Expr.LooksUp : Expr → Name → Prop where
  | column (reference : left.bare = .column parts) (ordinal : right.IsOrdinal) :
      LooksUp (.binary op left right) parts
  | json (chain : JsonChain left parts keys asText) (ordinal : right.IsOrdinal) :
      LooksUp (.binary op left right) parts
  | needle (reference : needle.bare = .column parts) : LooksUp (.inList negated needle items) parts

/-- A reference finds its key in FROM clauses: its qualifier or, if it has none, the empty key of a
table without an alias. A malformed reference looks for no key. -/
def Grounded (levels : List (List Source)) : Name → Prop
  | [] => True
  | [_] => Declares levels ""
  | qualifier :: _ :: _ => Declares levels qualifier.canonical

/-- Every reference that the walk of a predicate looks up is grounded in the given FROM clauses around
the predicate and those on the way to the reference. -/
def Expr.Closed (levels : List (List Source)) (root : Expr) : Prop :=
  ∀ path below part parts, root.Reaches path below part → part.LooksUp parts →
    Grounded (levels ++ below) parts

/-- Every reference that the walk of a query looks up is grounded in the given FROM clauses around the
query, its own one and those on the way to the reference. -/
def Query.Closed (levels : List (List Source)) (query : Query) : Prop :=
  ∀ block condition, query.core = .select block → block.selection = some condition →
    condition.Closed (levels ++ [block.sources])

namespace Expr
variable {levels : List (List Source)}

theorem closed_nested_iff {enclosed : Expr} :
    (Expr.nested enclosed).Closed levels ↔ enclosed.Closed levels := by
  constructor
  · intro closed _ _ _ _ reached
    exact closed _ _ _ _ (.nested reached)
  · intro closed _ _ _ _ reached looked
    cases reached with
    | here => cases looked
    | nested inside => exact closed _ _ _ _ inside looked

theorem closed_negation_iff {operand : Expr} :
    (Expr.negation operand).Closed levels ↔ operand.Closed levels := by
  constructor
  · intro closed _ _ _ _ reached
    exact closed _ _ _ _ (.negation reached)
  · intro closed _ _ _ _ reached looked
    cases reached with
    | here => cases looked
    | negation inside => exact closed _ _ _ _ inside looked

theorem closed_logical_iff {left right : Expr} :
    (Expr.logical connective left right).Closed levels ↔ left.Closed levels ∧ right.Closed levels := by
  constructor
  · intro closed
    constructor
    · intro _ _ _ _ reached
      exact closed _ _ _ _ (.left reached)
    · intro _ _ _ _ reached
      exact closed _ _ _ _ (.right reached)
  · rintro ⟨closedLeft, closedRight⟩ _ _ _ _ reached looked
    cases reached with
    | here => cases looked
    | left inside => exact closedLeft _ _ _ _ inside looked
    | right inside => exact closedRight _ _ _ _ inside looked

theorem closed_subquery_iff {right : Expr} (operand : right.bare = .subquery query) :
    (Expr.binary op left right).Closed levels ↔ query.Closed levels := by
  constructor
  · intro closed block condition form clause path below part parts reached
    rw [List.append_assoc]
    exact closed _ _ _ _ (.subquery ⟨operand, form, clause⟩ reached)
  · intro closed path below part parts reached looked
    cases reached with
    | here =>
      have apart : ¬ right.IsOrdinal := by
        rintro ⟨text, param, bare, -⟩
        cases operand.symm.trans bare
      cases looked with
      | column _ ordinal => exact absurd ordinal apart
      | json _ ordinal => exact absurd ordinal apart
    | @subquery _ entered block condition path below _ op left next inside =>
      obtain rfl : query = entered := Expr.subquery.inj (operand.symm.trans next.operand)
      have grounded := closed block condition next.body next.clause path below part parts inside looked
      rwa [List.append_assoc] at grounded

theorem Closed.grounded {root : Expr} (closed : root.Closed levels) (looked : root.LooksUp parts) :
    Grounded levels parts := by
  rw [← List.append_nil levels]
  exact closed _ _ _ _ .here looked

end Expr

namespace Scope

/-- Scopes in which the keys of FROM clauses stand for the same relations. -/
def Share (levels : List (List Source)) (first second : Scope) : Prop :=
  ∀ key, Declares levels key →
    ∃ relation, first.get? key = some relation ∧ second.get? key = some relation

/-- A relation without an alias is found by references without a qualifier. -/
theorem unqualified_of_empty_key {scope : Scope} (here : scope.get? "" = some relation) :
    scope.unqualified = relation := by
  by_cases single : ∃ name, scope.Only name
  · obtain ⟨name, only⟩ := single
    obtain rfl : "" = name := (only "").mp ⟨relation, here⟩
    exact unqualified_of_only only here
  · rw [unqualified_of_not_only (not_exists.mp single), here]
    rfl

theorem Share.column?_eq {first second : Scope} (share : Share levels first second)
    (grounded : Grounded levels parts) : first.column? parts = second.column? parts := by
  match parts with
  | [] => rfl
  | [column] =>
    obtain ⟨relation, here, there⟩ := share "" grounded
    rw [column?, column?, unqualified_of_empty_key here, unqualified_of_empty_key there]
  | qualifier :: column :: more =>
    obtain ⟨relation, here, there⟩ := share qualifier.canonical grounded
    rw [column?, column?, qualified, qualified, here, there]

theorem Share.merge {first second inner : Scope} (share : Share levels first second)
    (entered : (Scope.ofSources sources).outcome = .ok inner) :
    Share (levels ++ [sources]) (first.merge inner) (second.merge inner) := by
  intro key declared
  rw [get?_merge, get?_merge]
  cases own : inner.get? key with
  | some relation => exact ⟨relation, rfl, rfl⟩
  | none =>
    obtain ⟨clause, member, table, listed, rfl⟩ := declared
    rcases List.mem_append.mp member with outer | here
    · exact share table.key ⟨clause, outer, table, listed, rfl⟩
    · obtain rfl := List.mem_singleton.mp here
      rw [(ofSources_alike clause).outcome] at entered
      obtain ⟨relation, found⟩ := (exists_get?_iff_of_withTables entered _).mpr ⟨table, listed, rfl⟩
      cases own.symm.trans found

/-- The same FROM clause inside two scopes. -/
theorem Share.nested {outer other : Option Scope}
    (share : Share levels (outer.getD .empty) (other.getD .empty)) (sources : List Source) :
    Walk.Agree (Share (levels ++ [sources])) (Scope.nested outer sources)
      (Scope.nested other sources) := by
  apply Walk.Agree.bind_same
  intro inner entered
  exact .pure (share.merge entered)

theorem Share.resolve {first second : Scope} (share : Share levels first second) (parts : Name) :
    Walk.AgreeIf (Grounded levels parts) (first.resolve parts) (second.resolve parts) := by
  have required : Walk.AgreeIf (Grounded levels parts)
      (Walk.require .emptyColumnRef (first.column? parts))
      (Walk.require .emptyColumnRef (second.column? parts)) := by
    match parts with
    | [] => exact .refl _
    | [column] => exact Walk.Agree.pure fun grounded => Option.some.inj (share.column?_eq grounded)
    | qualifier :: column :: more =>
      exact Walk.Agree.pure fun grounded => Option.some.inj (share.column?_eq grounded)
  unfold Scope.resolve
  simp only
  split
  · exact Walk.Agree.bind_same _ fun _ _ => required
  · exact required

end Scope

open Scope (Share)
open Walk (Agree AgreeIf)

/-- The column in front of an IN list shows only in the bindings. -/
theorem listBindings_agree (column other : Column) (items : List Expr) :
    AgreeIf (column = other) (listBindings column items) (listBindings other items) := by
  apply AgreeIf.gather
  intro item
  cases Operand.of item with
  | param param => exact Agree.pure fun same => by rw [same]
  | _ => exact .refl _

theorem comparisonBindings_agree {left right : Expr} {first second : Scope}
    (share : Share levels first second) (op : Operator) (text : String) :
    AgreeIf ((Expr.binary op left right).Closed levels)
      (comparisonBindings first text (Operand.of left) (Operand.of right))
      (comparisonBindings second text (Operand.of left) (Operand.of right)) := by
  cases rightForm : Operand.of right with
  | param param =>
    have ordinal : right.IsOrdinal := right.isOrdinal_iff.mpr ⟨param, rightForm⟩
    cases leftForm : Operand.of left with
    | column parts =>
      apply (share.resolve parts).bind
      intro column other same
      refine .pure fun closed => ?_
      rw [same (closed.grounded (.column (Operand.of_eq_column_iff.mp leftForm) ordinal))]
    | json parts accessor =>
      obtain ⟨keys, asText, chain, -⟩ := Operand.of_eq_json_iff.mp leftForm
      apply (share.resolve parts).bind
      intro column other same
      refine .pure fun closed => ?_
      rw [same (closed.grounded (.json chain ordinal))]
    | _ => exact .refl _
  | _ => cases Operand.of left <;> exact .refl _

/-- A subquery in scopes that share the keys of FROM clauses, if its WHERE clause has walks that agree
one level further in. -/
theorem Query.bindings_agree_of_share {query : Query} {outer other : Option Scope}
    (share : Share levels (outer.getD .empty) (other.getD .empty))
    (inside : ∀ block condition first second, query.core = .select block →
      block.selection = some condition → Share (levels ++ [block.sources]) first second →
      AgreeIf (condition.Closed (levels ++ [block.sources])) (condition.bindings first)
        (condition.bindings second)) :
    AgreeIf (query.Closed levels) (query.core.bindings outer) (query.core.bindings other) := by
  cases form : query.core with
  | query inner => exact absurd form (query.core_ne_query inner)
  | select block =>
    rw [bindings_of_select, bindings_of_select]
    apply (share.nested block.sources).bind
    intro first second shared
    have announced : Agree Eq (Walk.emit (.select first.size outer.isSome))
        (Walk.emit (.select second.size other.isSome)) := .emit _ _
    apply announced.bind
    intro _ _ _
    cases clause : block.selection with
    | none =>
      rw [selectionBindings, selectionBindings]
      exact .pure fun _ => rfl
    | some condition =>
      rw [selectionBindings, selectionBindings]
      apply (inside block condition first second form clause shared).imp
      intro closed
      exact closed block condition form clause
  | values rows marked =>
    rw [Body.bindings, Body.bindings]
    exact .refl _
  | phrase parts =>
    rw [Body.bindings, Body.bindings]
    exact .refl _

/-- In scopes that share the keys of the FROM clauses around it, a predicate is walked with the same
reports and errors, and with the same bindings if it is closed. -/
theorem Expr.bindings_agree_of_share (expr : Expr) {levels : List (List Source)} {first second : Scope}
    (share : Share levels first second) :
    AgreeIf (expr.Closed levels) (expr.bindings first) (expr.bindings second) := by
  induction expr using Expr.walk_induction generalizing levels first second with
  | nested enclosed ih =>
    rw [Expr.bindings, Expr.bindings]
    exact (ih share).imp Expr.closed_nested_iff.mp
  | negation operand ih =>
    rw [Expr.bindings, Expr.bindings]
    exact (ih share).imp Expr.closed_negation_iff.mp
  | logical connective left right ihLeft ihRight =>
    rw [Expr.bindings, Expr.bindings]
    apply (ihLeft share).bind
    intro found other sameLeft
    apply (ihRight share).bind
    intro more others sameRight
    refine .pure fun closed => ?_
    obtain ⟨closedLeft, closedRight⟩ := Expr.closed_logical_iff.mp closed
    rw [sameLeft closedLeft, sameRight closedRight]
  | binary op left right ih =>
    by_cases operand : ∃ query, right.bare = .subquery query
    · obtain ⟨query, operand⟩ := operand
      rw [bindings_of_subquery operand, bindings_of_subquery operand]
      have inside : AgreeIf (query.Closed levels) (query.core.bindings (some first))
          (query.core.bindings (some second)) := by
        apply Query.bindings_agree_of_share share
        intro block condition _ _ form clause shared
        exact ih query block condition ⟨operand, form, clause⟩ shared
      apply Agree.bind_same
      intro _ _
      exact inside.imp (Expr.closed_subquery_iff operand).mp
    · have apart := not_exists.mp operand
      rw [bindings_of_comparison apart, bindings_of_comparison apart]
      exact comparisonBindings_agree share op _
  | inList negated needle items =>
    rw [Expr.bindings, Expr.bindings]
    cases form : Operand.of needle with
    | column parts =>
      apply (share.resolve parts).bind
      intro column other same
      apply (listBindings_agree column other items).imp
      intro closed
      exact same (closed.grounded (.needle (Operand.of_eq_column_iff.mp form)))
    | _ => exact .refl _
  | isNull | column | literal | subquery | phrase =>
    rw [Expr.bindings, Expr.bindings]
    exact .refl _

/-- The scope around a query never shows in what is reported, nor in whether and why the walk fails. If
each reference finds its key in the FROM clauses inside the query, it does not show in the bindings
either. -/
theorem Query.bindings_of_closed (query : Query) (parent : Scope) :
    (query.bindings (some parent)).warnings = (query.bindings none).warnings ∧
      (∀ cause, (query.bindings (some parent)).outcome = .error cause ↔
        (query.bindings none).outcome = .error cause) ∧
      (query.Closed [] → (query.bindings (some parent)).outcome = (query.bindings none).outcome) := by
  have shared : Share [] ((some parent).getD .empty) ((none : Option Scope).getD .empty) := by
    rintro key ⟨sources, member, -⟩
    cases member
  have agree : AgreeIf (query.Closed []) (query.bindings (some parent)) (query.bindings none) := by
    rw [Query.bindings_core, Query.bindings_core]
    apply Query.bindings_agree_of_share shared
    intro block condition _ _ _ _ inside
    exact condition.bindings_agree_of_share inside
  exact ⟨agree.warnings, agree.error_iff, agree.outcome_eq⟩

theorem closed_comparedWith (grounded : Grounded levels reference) :
    (comparedWith reference text).Closed levels := by
  intro path below part parts reached looked
  cases reached with
  | subquery next => cases next.operand
  | here =>
    rw [List.append_nil]
    cases looked with
    | column bare =>
      cases bare
      exact grounded
    | json chain =>
      cases chain with
      | first bare => cases bare
      | next bare => cases bare

/-- `SELECT … FROM "u" AS "x" WHERE "x"."c" = $2 AND "d" = $3` -/
def innerQuery : Query :=
  ⟨[], .select ⟨[], [⟨.table [⟨"u", some .double⟩] (some ⟨⟨"x", some .double⟩, []⟩), []⟩], [],
    some (.logical .and (comparedWith [⟨"x", some .double⟩, ⟨"c", some .double⟩] "$2")
      (comparedWith [⟨"d", some .double⟩] "$3")), []⟩, []⟩

/-- `SELECT … FROM "t" WHERE "a" = $1 OR "b" = (SELECT … FROM "u" AS "x" …)` -/
def outerQuery : Query :=
  ⟨[], .select ⟨[], [⟨.table [⟨"t", some .double⟩] none, []⟩], [],
    some (.logical .or (comparedWith [⟨"a", some .double⟩] "$1")
      (.binary (.symbol "=") (.column [⟨"b", some .double⟩]) (.subquery innerQuery))), []⟩, []⟩

theorem outerQuery_closed : outerQuery.Closed [] := by
  rintro _ _ ⟨⟩ ⟨⟩
  refine Expr.closed_logical_iff.mpr ⟨closed_comparedWith ?_, (Expr.closed_subquery_iff rfl).mpr ?_⟩
  · exact ⟨_, .head _, _, .head _, rfl⟩
  · rintro _ _ ⟨⟩ ⟨⟩
    refine Expr.closed_logical_iff.mpr ⟨closed_comparedWith ?_, closed_comparedWith ?_⟩
    · exact ⟨_, .tail _ (.head _), _, .head _, rfl⟩
    · exact ⟨_, .head _, _, .head _, rfl⟩

/-- Names that are in use outside do not get in. -/
theorem Query.bindings_of_closed_shadowing :
    outerQuery.Closed [] ∧
      (outerQuery.bindings (some (Scope.empty.declare
        [("x", ⟨none, "v"⟩), ("", ⟨none, "w"⟩), ("y", ⟨none, "t"⟩)]))).outcome =
        .ok [(⟨1, by decide, by decide⟩, { relation := ⟨none, "t"⟩, name := "a" }),
          (⟨2, by decide, by decide⟩, { relation := ⟨none, "u"⟩, name := "c" }),
          (⟨3, by decide, by decide⟩, { relation := ⟨none, "t"⟩, name := "d" })] := by
  refine ⟨outerQuery_closed, ?_⟩
  rw [(Query.bindings_of_closed outerQuery _).2.2 outerQuery_closed]
  rfl

/-- By itself the subquery is open: for `"d"` it has a table, but under an alias only. -/
example : (innerQuery.bindings (some (Scope.empty.declare [("", ⟨none, "w"⟩)]))).outcome.toOption ≠
    (innerQuery.bindings none).outcome.toOption := by
  decide

end SqlBinding
