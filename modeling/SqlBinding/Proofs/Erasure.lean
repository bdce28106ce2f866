import SqlBinding.Proofs.TreeMatching

/-! Clauses that the analysis does not look at. Of a query only its body counts, of a SELECT only the
FROM and the WHERE clause, and of a FROM clause only the names and labels of its tables. All the rest
can be erased: neither a binding nor a warning nor an error depends on it.
-/

namespace SqlBinding

def Alias.erase (label : Alias) : Alias := { label with columns := [] }

mutual

/-- An item of a FROM clause without the arguments of functions, without what other items are made of,
and without the kinds and conditions of joins. -/
def Factor.erase : Factor → Factor
  | .table name label => .table name (label.map Alias.erase)
  | .call name _ _ label _ => .call name none "" (label.map Alias.erase) []
  | .join inner label => .join inner.erase (label.map Alias.erase)
  | .other _ label => .other [] (label.map Alias.erase)

def Source.erase : Source → Source
  | ⟨factor, joins⟩ => ⟨factor.erase, eraseJoins joins⟩

def eraseJoins : List Join → List Join
  | [] => []
  | ⟨_, factor, _⟩ :: rest => ⟨"", factor.erase, []⟩ :: eraseJoins rest

end

mutual

/-- An expression without the clauses that are not looked at in its subqueries. -/
def Expr.erase : Expr → Expr
  | .column parts => .column parts
  | .literal value => .literal value
  | .nested inner => .nested inner.erase
  | .logical connective left right => .logical connective left.erase right.erase
  | .negation operand => .negation operand.erase
  | .binary op left right => .binary op left.erase right.erase
  | .inList negated needle items => .inList negated needle.erase (eraseExprs items)
  | .isNull negated operand => .isNull negated operand.erase
  | .subquery query => .subquery query.erase
  | .phrase _ => .phrase []

def eraseExprs : List Expr → List Expr
  | [] => []
  | expr :: rest => expr.erase :: eraseExprs rest

/-- The innermost body of a query by itself, without what stands before it and behind it. -/
def Query.erase : Query → Query
  | ⟨_, body, _⟩ => ⟨[], body.erase, []⟩

def Body.erase : Body → Body
  | .select block => .select block.erase
  | .query ⟨_, body, _⟩ => body.erase
  | .values rows marked => .values (eraseRows rows) marked
  | .phrase _ => .phrase []

def eraseRows : List (List Expr) → List (List Expr)
  | [] => []
  | row :: rest => eraseExprs row :: eraseRows rest

def Select.erase : Select → Select
  | ⟨_, sources, _, selection, _⟩ => ⟨[], sources.map Source.erase, [], eraseSelection selection, []⟩

def eraseSelection : Option Expr → Option Expr
  | none => none
  | some condition => some condition.erase

end

mutual

/-- The source of an INSERT, where the parentheses around a query count. -/
def Query.eraseInside : Query → Query
  | ⟨_, body, _⟩ => ⟨[], body.eraseInside, []⟩

def Body.eraseInside : Body → Body
  | .query inner => .query inner.eraseInside
  | .select block => .select block.erase
  | .values rows marked => .values (eraseRows rows) marked
  | .phrase _ => .phrase []

end

def Target.erase : Target → Target
  | .table name => .table name
  | .function call => .function call.erase

def Insert.erase (insertion : Insert) : Insert :=
  { insertion with
    target := insertion.target.erase
    partition := []
    source := insertion.source.map Query.eraseInside
    closing := [] }

def Assignment.erase (assignment : Assignment) : Assignment :=
  { assignment with value := assignment.value.erase }

/-- An UPDATE with its FROM clause behind SET. -/
def Update.erase (change : Update) : Update :=
  { change with
    target := change.target.erase
    assignments := change.assignments.map Assignment.erase
    sources := change.sources.map (List.map Source.erase)
    sourcesFirst := false
    selection := eraseSelection change.selection
    closing := [] }

/-- A DELETE with its first item only, which is left without joins. -/
def Delete.erase (deletion : Delete) : Delete :=
  { deletion with
    sources := (deletion.sources.take 1).map fun source => ⟨source.factor.erase, []⟩
    joined := none
    selection := eraseSelection deletion.selection
    closing := [] }

def Statement.erase : Statement → Statement
  | .query asked => .query asked.erase
  | .insert insertion => .insert insertion.erase
  | .update change => .update change.erase
  | .delete deletion => .delete deletion.erase
  | .other _ => .other []

theorem eraseExprs_eq_map (exprs : List Expr) : eraseExprs exprs = exprs.map Expr.erase := by
  induction exprs with
  | nil => rw [eraseExprs, List.map_nil]
  | cons first rest ih => rw [eraseExprs, List.map_cons, ih]

theorem eraseRows_eq_map (rows : List (List Expr)) :
    eraseRows rows = rows.map (List.map Expr.erase) := by
  induction rows with
  | nil => rw [eraseRows, List.map_nil]
  | cons first rest ih => rw [eraseRows, List.map_cons, ih, eraseExprs_eq_map]

theorem eraseSelection_eq_map (selection : Option Expr) :
    eraseSelection selection = selection.map Expr.erase := by
  cases selection <;> rw [eraseSelection] <;> rfl

theorem Table.matches_erase (name : Name) (label : Option Alias) :
    Table.Matches id ⟨name, label⟩ ⟨name, label.map Alias.erase⟩ := by
  refine ⟨rfl, ?_⟩
  cases label <;> rfl

theorem Source.carries_erase : Source.Carries id Factor.erase Source.erase where
  table name label := ⟨_, _, by rw [Factor.erase], Table.matches_erase name label⟩
  call name _ _ label _ := ⟨_, _, _, _, _, by rw [Factor.erase], Table.matches_erase name label⟩
  join inner label := ⟨_, by rw [Factor.erase]⟩
  other parts label := ⟨_, _, by rw [Factor.erase]⟩
  first item := by
    cases item
    rw [Source.erase]
  joined item := by
    obtain ⟨_, joins⟩ := item
    rw [Source.erase]
    induction joins with
    | nil => rw [eraseJoins]; rfl
    | cons first rest ih =>
      cases first
      rw [eraseJoins, List.map_cons, List.map_cons, ih]

theorem Query.carries_erase : Query.Carries id Expr.erase Query.erase Body.erase where
  outer _ _ _ := by rw [Query.erase, Query.core]
  layer inner := by
    cases inner
    rw [Body.erase, Query.erase, Query.core]
  body body last := by
    cases body with
    | query inner => exact absurd rfl (last inner)
    | select block =>
      cases block
      rw [Body.erase, Select.erase, eraseSelection_eq_map]
      exact .select (Source.carries_erase.tablesOf _) rfl
    | values rows marked =>
      rw [Body.erase, eraseRows_eq_map]
      exact .values
    | phrase parts =>
      rw [Body.erase]
      exact .phrase

theorem Expr.matches_erase (expr : Expr) : Expr.Matches id id expr expr.erase := by
  induction expr using Expr.tree_induction with
  | column parts =>
    rw [Expr.erase]
    exact .column (Name.Matches.refl parts)
  | literal value =>
    rw [Expr.erase]
    exact .literal_self value
  | nested inner ih =>
    rw [Expr.erase]
    exact .opened (.enclosed ih)
  | logical connective left right ihLeft ihRight =>
    rw [Expr.erase]
    exact .logical ihLeft ihRight
  | negation operand ih =>
    rw [Expr.erase]
    exact .negation ih
  | binary op left right ihLeft ihRight =>
    rw [Expr.erase]
    exact .binary ihLeft ihRight
  | inList negated needle items ih each =>
    rw [Expr.erase, eraseExprs_eq_map]
    exact .inList ih each
  | isNull negated operand =>
    rw [Expr.erase]
    exact .isNull
  | subquery query ih =>
    rw [Expr.erase]
    exact .subquery (Query.carries_erase.resembles query) ih
  | phrase parts =>
    rw [Expr.erase]
    exact .phrase

theorem Body.eraseInside_eq {body : Body} (last : ∀ inner, body ≠ .query inner) :
    body.eraseInside = body.erase := by
  cases body with
  | query inner => exact absurd rfl (last inner)
  | _ => rw [Body.eraseInside, Body.erase]

theorem Insert.matches_erase (insertion : Insert) : Insert.Matches id id insertion insertion.erase where
  target := by
    unfold Insert.erase
    cases insertion.target with
    | table name => exact .table rfl
    | function call => exact .function
  columns := rfl
  source := by
    unfold Insert.erase
    cases insertion.source with
    | none => exact .none
    | some source =>
      refine .of_body Body.eraseInside Expr.matches_erase ?_ ?_ ?_
      · intro body last
        rw [Body.eraseInside_eq last]
        exact Query.carries_erase.body body last
      · intro inner
        exact ⟨_, by rw [Body.eraseInside]⟩
      · cases source
        rw [Query.eraseInside]

theorem Update.matches_erase (change : Update) : Update.Matches id id change change.erase where
  target := Source.carries_erase.update_target rfl
  assignments := by
    refine List.forall₂_map_right_iff.mpr (List.forall₂_same.mpr fun assignment _ => ?_)
    refine ⟨?_, assignment.value.matches_erase⟩
    exact .refl assignment.target
  tables := Source.carries_erase.update_tables rfl rfl
  selection := by
    unfold Update.erase
    rw [eraseSelection_eq_map]
    exact selection_matches Expr.matches_erase _

theorem Delete.matches_erase (deletion : Delete) : Delete.Matches id id deletion deletion.erase where
  tables := Source.carries_erase.delete_tables (by unfold Delete.erase; cases deletion.sources <;> rfl)
  selection := by
    unfold Delete.erase
    rw [eraseSelection_eq_map]
    exact selection_matches Expr.matches_erase _

theorem Statement.matches_erase (statement : Statement) :
    Statement.Matches id id statement statement.erase := by
  cases statement with
  | query asked => exact .query (Query.carries_erase.toMatches Expr.matches_erase asked)
  | insert insertion => exact .insert insertion.matches_erase
  | update change => exact .update change.matches_erase
  | delete deletion => exact .delete deletion.matches_erase
  | other parts => exact .other

/-- Erasure leaves the steps of a statement. -/
theorem Statement.steps_erase (statement : Statement) : statement.erase.steps = statement.steps := by
  simpa using statement.matches_erase.steps

/-- Statements that are equal after erasure have analyses with the same bindings and the same kinds of
warnings, or fail with the same error. -/
theorem Statement.outline_of_erase_eq (first second : Statement) (same : first.erase = second.erase) :
    first.analyze.outcome.map Analysis.outline = second.analyze.outcome.map Analysis.outline := by
  have steps : first.steps = second.steps := by
    rw [← first.steps_erase, same, second.steps_erase]
  rw [first.outline_eq, second.outline_eq, steps]

/-- `SELECT … FROM "orders" AS "o" … JOIN "lines" AS "l" … WHERE "o"."day" = $1` -/
def ordersOfDay (projection : List Part) (keyword : String) (condition : List Part) : Body :=
  .select ⟨projection,
    [⟨.table [⟨"orders", some .double⟩] (some ⟨⟨"o", some .double⟩, []⟩),
      [⟨keyword, .table [⟨"lines", some .double⟩] (some ⟨⟨"l", some .double⟩, []⟩), condition⟩]⟩],
    [], some (.binary (.symbol "=") (.column [⟨"o", some .double⟩, ⟨"day", some .double⟩])
      (.literal (.placeholder "$1"))), []⟩

/-- `(SELECT * FROM … JOIN … ON "l"."id" = $2 WHERE …) LIMIT $3` -/
def limitedOrders : Statement :=
  .query ⟨[], .query ⟨[], ordersOfDay [.text "*"] "JOIN"
    [.text " ON ", .expr (.binary (.symbol "=") (.column [⟨"l", some .double⟩, ⟨"id", some .double⟩])
      (.literal (.placeholder "$2")))], []⟩, [.text " LIMIT ", .expr (.literal (.placeholder "$3"))]⟩

/-- `SELECT 1 FROM … CROSS JOIN … WHERE …` -/
def crossedOrders : Statement :=
  .query ⟨[], ordersOfDay [.expr (.literal (.number "1"))] "CROSS JOIN" [], []⟩

/-- Parameters of a join condition and of a limit are not bound. -/
theorem Statement.outline_of_erase_eq_orders :
    limitedOrders.placeholders ≠ crossedOrders.placeholders ∧
    limitedOrders.erase = crossedOrders.erase ∧
    limitedOrders.analyze.outcome.map Analysis.outline =
      crossedOrders.analyze.outcome.map Analysis.outline :=
  ⟨by decide, rfl, Statement.outline_of_erase_eq _ _ rfl⟩

end SqlBinding
