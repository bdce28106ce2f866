import SqlBinding.Proofs.ParamMap
import SqlBinding.Proofs.Reach

/-! Binding sites: the places of a predicate where a parameter meets a column. The walk of a predicate
finds the sites from left to right, all of them and nothing else, so a parameter is bound exactly
if it has a site, and to the column of its last one.
-/

namespace SqlBinding

/-- A comparison of a column or of a field of one with a parameter, or a parameter in an IN list
behind a column. The position is that of the placeholder. -/
inductive Binds (scope : Scope) : Expr → List Nat → Param → Column → Prop where
  | column (reference : left.bare = .column parts) (resolved : scope.column? parts = some column)
      (operand : right.bare = .literal (.placeholder text))
      (numbered : Param.ofText? text = some param) :
      Binds scope (.binary op left right) (1 :: right.parens) param column
  | json (chain : JsonChain left parts keys asText)
      (resolved : scope.column? parts = some column)
      (operand : right.bare = .literal (.placeholder text))
      (numbered : Param.ofText? text = some param) :
      Binds scope (.binary op left right) (1 :: right.parens) param
        (column.withAccessor (.ofKeys keys asText))
  | item (reference : needle.bare = .column parts) (resolved : scope.column? parts = some column)
      (listed : items[index]? = some item)
      (operand : item.bare = .literal (.placeholder text))
      (numbered : Param.ofText? text = some param) :
      Binds scope (.inList negated needle items) ((index + 1) :: item.parens) param column

/-- A place that the walk of a predicate comes to and that binds a parameter to a column, in the
scope of the subqueries on the way. -/
inductive Site (root : Expr) (scope : Scope) : List Nat → Param → Column → Prop where
  | mk (reached : root.Reaches outer levels part)
      (entered : (scope.within levels).outcome = .ok current)
      (bound : Binds current part rest param column) :
      Site root scope (outer ++ rest) param column

/-- A site is the position of a placeholder of its parameter. -/
theorem Site.occurs (site : Site root scope path param column) :
    Node.Occurs (.expr root) path param := by
  obtain ⟨reached, entered, bound⟩ := site
  unfold Node.Occurs
  simp only [Node.at?_append, reached.at?, Option.bind_some]
  cases bound with
  | column reference resolved operand numbered => exact ⟨_, Expr.at?_of_bare operand, numbered⟩
  | json chain resolved operand numbered => exact ⟨_, Expr.at?_of_bare operand, numbered⟩
  | item reference resolved listed operand numbered =>
    refine ⟨_, ?_, numbered⟩
    simp only [Node.at?_cons, Node.children, Expr.children, List.getElem?_cons_succ,
      List.getElem?_map, listed, Option.map_some, Option.bind_some]
    exact Expr.at?_of_bare operand

/-- Bindings are those of some sites, in the order of the positions and without a gap. -/
def Surveyed (sites : List Nat → Param → Column → Prop) (bindings : List Binding) : Prop :=
  ∃ marks : List (List Nat × Binding), marks.map Prod.snd = bindings ∧
    marks.Pairwise (fun early late => early.1 < late.1) ∧
    ∀ path param column, (path, param, column) ∈ marks ↔ sites path param column

namespace Surveyed

theorem nil (none : ∀ path param column, ¬ sites path param column) : Surveyed sites [] :=
  ⟨[], rfl, List.Pairwise.nil, fun path param column => by simp [none]⟩

theorem single (path : List Nat) (only : ∀ other param' column', sites other param' column' ↔
    other = path ∧ param' = param ∧ column' = column) : Surveyed sites [(param, column)] :=
  ⟨[(path, param, column)], rfl, List.pairwise_singleton _ _, fun other param' column' => by
    simp [only]⟩

theorem append (first : Surveyed early found) (second : Surveyed late more)
    (before : ∀ path param column path' param' column',
      early path param column → late path' param' column' → path < path')
    (either : ∀ path param column,
      sites path param column ↔ early path param column ∨ late path param column) :
    Surveyed sites (found ++ more) := by
  obtain ⟨marks, rfl, ascending, listed⟩ := first
  obtain ⟨others, rfl, ascending', listed'⟩ := second
  refine ⟨marks ++ others, List.map_append, ?_, ?_⟩
  · refine List.pairwise_append.mpr ⟨ascending, ascending', ?_⟩
    rintro ⟨path, param, column⟩ member ⟨path', param', column'⟩ member'
    exact before _ _ _ _ _ _ ((listed _ _ _).mp member) ((listed' _ _ _).mp member')
  · intro path param column
    rw [List.mem_append, listed, listed', either]

theorem congr (survey : Surveyed sites found)
    (same : ∀ path param column, others path param column ↔ sites path param column) :
    Surveyed others found := by
  obtain ⟨marks, rfl, ascending, listed⟩ := survey
  exact ⟨marks, rfl, ascending, fun path param column => by rw [listed, same]⟩

/-- Sites further down in a tree come in the same order. -/
theorem shift (steps : List Nat) (inside : Surveyed sites found)
    (moved : ∀ path param column,
      shifted path param column ↔ ∃ rest, path = steps ++ rest ∧ sites rest param column) :
    Surveyed shifted found := by
  obtain ⟨marks, rfl, ascending, listed⟩ := inside
  refine ⟨marks.map fun mark => (steps ++ mark.1, mark.2), by simp, ?_, ?_⟩
  · exact List.pairwise_map.mpr (ascending.imp fun before => List.append_left_lt before)
  · intro path param column
    simp only [List.mem_map, Prod.mk.injEq, moved, ← listed]
    constructor
    · intro given
      obtain ⟨⟨rest, binding⟩, member, rfl, rfl⟩ := given
      exact ⟨rest, rfl, member⟩
    · intro given
      obtain ⟨rest, rfl, member⟩ := given
      exact ⟨_, member, rfl, rfl⟩

theorem mem_iff (survey : Surveyed sites found) (param : Param) (column : Column) :
    (param, column) ∈ found ↔ ∃ path, sites path param column := by
  obtain ⟨marks, rfl, -, listed⟩ := survey
  simp [← listed]

/-- Of the bindings of a parameter the last is the one whose site has no other behind it. -/
theorem last_iff (survey : Surveyed sites found) (param : Param) (column : Column) :
    (∃ before after, found = before ++ (param, column) :: after ∧ ∀ pair ∈ after, pair.1 ≠ param) ↔
      ∃ path, sites path param column ∧
        ∀ later other, sites later param other → ¬ path < later := by
  obtain ⟨marks, rfl, ascending, listed⟩ := survey
  constructor
  · intro given
    obtain ⟨before, after, split, clear⟩ := given
    obtain ⟨early, rest, rfl, -, here⟩ := List.map_eq_append_iff.mp split
    obtain ⟨⟨path, binding⟩, late, rfl, rfl, rfl⟩ := List.map_eq_cons_iff.mp here
    obtain ⟨-, -, across⟩ := List.pairwise_append.mp ascending
    refine ⟨path, (listed _ _ _).mp (by simp), ?_⟩
    intro later other site behind
    rcases List.mem_append.mp ((listed _ _ _).mpr site) with inEarly | inRest
    · exact List.lt_asymm behind (across _ inEarly _ List.mem_cons_self)
    · rcases List.mem_cons.mp inRest with same | inLate
      · cases same
        exact List.lt_irrefl _ behind
      · exact clear (param, other) (List.mem_map.mpr ⟨_, inLate, rfl⟩) rfl
  · intro given
    obtain ⟨path, site, last⟩ := given
    obtain ⟨early, late, rfl⟩ := List.append_of_mem ((listed _ _ _).mpr site)
    refine ⟨early.map Prod.snd, late.map Prod.snd, by simp, ?_⟩
    rintro ⟨key, other⟩ member rfl
    obtain ⟨⟨later, binding⟩, inLate, rfl⟩ := List.mem_map.mp member
    have behind := (List.pairwise_cons.mp (List.pairwise_append.mp ascending).2.1).1 _ inLate
    exact last later other ((listed _ _ _).mp (by simp [inLate])) behind

end Surveyed

/-- The walk of a predicate goes no further than the predicate itself. -/
def Expr.Halts (root : Expr) : Prop :=
  ∀ path levels part, root.Reaches path levels part → path = [] ∧ levels = [] ∧ part = root

theorem site_iff_of_halts (halts : Expr.Halts root) :
    Site root scope path param column ↔ Binds scope root path param column := by
  constructor
  · intro given
    obtain ⟨reached, entered, bound⟩ := given
    obtain ⟨rfl, rfl, rfl⟩ := halts _ _ _ reached
    obtain rfl := Except.ok.inj entered
    exact bound
  · intro bound
    exact .mk .here rfl bound

/-- The sites of a part that the walk goes on to, in the same scope, are sites of the whole. -/
private theorem Site.lift (steps : List Nat)
    (carry : ∀ {path levels part}, below.Reaches path levels part →
      root.Reaches (steps ++ path) levels part)
    (site : Site below scope rest param column) : Site root scope (steps ++ rest) param column := by
  obtain ⟨reached, entered, bound⟩ := site
  rw [← List.append_assoc]
  exact .mk (carry reached) entered bound

private theorem site_nested_iff :
    Site (.nested enclosed) scope path param column ↔
      ∃ rest, path = [0] ++ rest ∧ Site enclosed scope rest param column := by
  constructor
  · intro given
    obtain ⟨reached, entered, bound⟩ := given
    cases reached with
    | here => cases bound
    | nested inside => exact ⟨_, rfl, .mk inside entered bound⟩
  · intro given
    obtain ⟨_, rfl, site⟩ := given
    exact site.lift [0] .nested

private theorem site_negation_iff :
    Site (.negation operand) scope path param column ↔
      ∃ rest, path = [0] ++ rest ∧ Site operand scope rest param column := by
  constructor
  · intro given
    obtain ⟨reached, entered, bound⟩ := given
    cases reached with
    | here => cases bound
    | negation inside => exact ⟨_, rfl, .mk inside entered bound⟩
  · intro given
    obtain ⟨_, rfl, site⟩ := given
    exact site.lift [0] .negation

private theorem site_logical_iff :
    Site (.logical connective left right) scope path param column ↔
      (∃ rest, path = [0] ++ rest ∧ Site left scope rest param column) ∨
      (∃ rest, path = [1] ++ rest ∧ Site right scope rest param column) := by
  constructor
  · intro given
    obtain ⟨reached, entered, bound⟩ := given
    cases reached with
    | here => cases bound
    | left inside => exact .inl ⟨_, rfl, .mk inside entered bound⟩
    | right inside => exact .inr ⟨_, rfl, .mk inside entered bound⟩
  · intro given
    rcases given with ⟨_, rfl, site⟩ | ⟨_, rfl, site⟩
    · exact site.lift [0] .left
    · exact site.lift [1] .right

theorem Expr.Continues.unique (first : Expr.Continues right query block condition)
    (second : Expr.Continues right query' block' condition') :
    query = query' ∧ block = block' ∧ condition = condition' := by
  obtain rfl : query = query' :=
    Expr.subquery.inj (first.operand.symm.trans second.operand)
  obtain rfl : block = block' := Body.select.inj (first.body.symm.trans second.body)
  exact ⟨rfl, rfl, Option.some.inj (first.clause.symm.trans second.clause)⟩

private theorem site_continues_iff (next : Expr.Continues right query block condition)
    (nested : (Scope.nested (some scope) block.sources).outcome = .ok current) :
    Site (.binary op left right) scope path param column ↔
      ∃ rest, path = bodySteps right query ++ [block.conditionIndex] ++ rest ∧
        Site condition current rest param column := by
  constructor
  · intro given
    obtain ⟨reached, entered, bound⟩ := given
    cases reached with
    | here => cases bound <;> simp_all [next.operand]
    | subquery actual inside =>
      obtain ⟨rfl, rfl, rfl⟩ := next.unique actual
      obtain ⟨_, same, entered⟩ := Scope.within_cons_ok_iff.mp entered
      obtain rfl := Except.ok.inj (nested.symm.trans same)
      exact ⟨_, by simp, .mk inside entered bound⟩
  · intro given
    obtain ⟨_, rfl, ⟨inside, entered, bound⟩⟩ := given
    have reached : (Expr.binary op left right).Reaches _ _ _ := .subquery next inside
    have site := Site.mk reached (Scope.within_cons_ok_iff.mpr ⟨current, nested, entered⟩) bound
    simpa using site

private theorem binds_binary_iff :
    Binds scope (.binary op left right) path param column ↔
      path = 1 :: right.parens ∧ Operand.of right = .param param ∧
        ((∃ parts, Operand.of left = .column parts ∧ scope.column? parts = some column) ∨
          ∃ parts accessor base, Operand.of left = .json parts accessor ∧
            scope.column? parts = some base ∧ column = base.withAccessor accessor) := by
  constructor
  · intro given
    rcases given with ⟨reference, resolved, operand, numbered⟩ | ⟨chain, resolved, operand, numbered⟩
    · exact ⟨rfl, Operand.of_eq_param_iff.mpr ⟨_, operand, numbered⟩,
        .inl ⟨_, Operand.of_eq_column_iff.mpr reference, resolved⟩⟩
    · exact ⟨rfl, Operand.of_eq_param_iff.mpr ⟨_, operand, numbered⟩,
        .inr ⟨_, _, _, Operand.of_jsonChain chain, resolved, rfl⟩⟩
  · intro given
    obtain ⟨rfl, ordinal, ⟨parts, reference, resolved⟩ | ⟨parts, _, base, access, resolved, rfl⟩⟩ := given
    · obtain ⟨text, operand, numbered⟩ := Operand.of_eq_param_iff.mp ordinal
      exact .column (Operand.of_eq_column_iff.mp reference) resolved operand numbered
    · obtain ⟨text, operand, numbered⟩ := Operand.of_eq_param_iff.mp ordinal
      obtain ⟨keys, asText, chain, rfl⟩ := Operand.of_eq_json_iff.mp access
      exact .json chain resolved operand numbered

private theorem survey_comparison {scope : Scope} {left right : Expr}
    (walked : (comparisonBindings scope text (Operand.of left) (Operand.of right)).outcome =
      .ok found) :
    Surveyed (Binds scope (.binary op left right)) found := by
  unfold comparisonBindings at walked
  split at walked
  case h_1 parts param reference ordinal =>
    obtain ⟨column, resolved, walked⟩ := Walk.bind_ok_iff.mp walked
    obtain rfl := Except.ok.inj walked
    rw [resolve_ok_iff] at resolved
    refine .single (1 :: right.parens) fun other param' column' => ?_
    simp [binds_binary_iff, reference, ordinal, resolved, eq_comm]
  case h_2 parts accessor param access ordinal =>
    obtain ⟨column, resolved, walked⟩ := Walk.bind_ok_iff.mp walked
    obtain rfl := Except.ok.inj walked
    rw [resolve_ok_iff] at resolved
    refine .single (1 :: right.parens) fun other param' column' => ?_
    rw [binds_binary_iff, ordinal, Operand.param.injEq]
    constructor
    · intro given
      obtain ⟨rfl, rfl, ⟨_, reference, -⟩ | ⟨_, _, base, access', resolved', rfl⟩⟩ := given
      · cases access.symm.trans reference
      · obtain ⟨rfl, rfl⟩ := Operand.json.inj (access.symm.trans access')
        obtain rfl := Option.some.inj (resolved.symm.trans resolved')
        exact ⟨rfl, rfl, rfl⟩
    · intro given
      obtain ⟨rfl, rfl, rfl⟩ := given
      exact ⟨rfl, rfl, .inr ⟨parts, accessor, column, access, resolved, rfl⟩⟩
  case h_3 _ _ parts reference =>
    obtain rfl := Except.ok.inj walked
    exact .nil fun path param column => by simp [binds_binary_iff, reference]
  case h_4 _ _ written unnumbered =>
    obtain rfl := Except.ok.inj walked
    exact .nil fun path param column => by simp [binds_binary_iff, unnumbered]
  case h_5 _ _ noColumn noField =>
    obtain rfl := Except.ok.inj walked
    refine .nil fun path param column bound => ?_
    obtain ⟨-, ordinal, ⟨parts, reference, -⟩ | ⟨parts, accessor, -, access, -⟩⟩ :=
      binds_binary_iff.mp bound
    · exact noColumn parts param reference ordinal
    · exact noField parts accessor param access ordinal

private theorem survey_item (column : Column) (item : Expr) (start : Nat) :
    Surveyed (fun path param bound =>
        Operand.of item = .param param ∧ path = start :: item.parens ∧ bound = column)
      (itemBinding? column item).toList := by
  unfold itemBinding?
  split
  case h_1 param ordinal =>
    refine .single (start :: item.parens) fun other param' column' => ?_
    rw [ordinal, Operand.param.injEq, eq_comm]
    exact and_left_comm
  case h_2 none =>
    exact .nil fun path param bound ⟨ordinal, _⟩ => none param ordinal

private theorem survey_items (column : Column) (items : List Expr) (start : Nat) :
    Surveyed (fun path param bound => ∃ index item, items[index]? = some item ∧
        Operand.of item = .param param ∧ path = (start + index) :: item.parens ∧ bound = column)
      (items.filterMap (itemBinding? column)) := by
  induction items generalizing start with
  | nil => exact .nil fun path param bound ⟨index, item, listed, _⟩ => by simp at listed
  | cons first rest ih =>
    have split : (first :: rest).filterMap (itemBinding? column) =
        (itemBinding? column first).toList ++ rest.filterMap (itemBinding? column) := by
      rw [List.filterMap_cons]
      cases itemBinding? column first <;> rfl
    rw [split]
    refine (survey_item column first start).append (ih (start + 1)) ?_ ?_
    · rintro path param bound path' param' bound' ⟨-, rfl, -⟩ ⟨index, item, -, -, rfl, -⟩
      exact List.cons_lt_cons_iff.mpr (.inl (by omega))
    · intro path param bound
      constructor
      · intro given
        obtain ⟨_ | index, item, listed, ordinal, rfl, rfl⟩ := given
        · obtain rfl : first = item := by simpa using listed
          exact .inl ⟨ordinal, rfl, rfl⟩
        · exact .inr ⟨index, item, by simpa using listed, ordinal, by congr 1; omega, rfl⟩
      · intro given
        rcases given with ⟨ordinal, rfl, rfl⟩ | ⟨index, item, listed, ordinal, rfl, rfl⟩
        · exact ⟨0, first, rfl, ordinal, rfl, rfl⟩
        · exact ⟨index + 1, item, by simpa using listed, ordinal, by congr 1; omega, rfl⟩

private theorem binds_inList_iff :
    Binds scope (.inList negated needle items) path param column ↔
      ∃ parts index item, Operand.of needle = .column parts ∧
        scope.column? parts = some column ∧ items[index]? = some item ∧
        Operand.of item = .param param ∧ path = (1 + index) :: item.parens := by
  constructor
  · intro bound
    cases bound with
    | item reference resolved listed operand numbered =>
      exact ⟨_, _, _, Operand.of_eq_column_iff.mpr reference, resolved, listed,
        Operand.of_eq_param_iff.mpr ⟨_, operand, numbered⟩, by rw [Nat.add_comm]⟩
  · intro given
    obtain ⟨parts, index, item, reference, resolved, listed, ordinal, rfl⟩ := given
    obtain ⟨text, operand, numbered⟩ := Operand.of_eq_param_iff.mp ordinal
    rw [Nat.add_comm]
    exact .item (Operand.of_eq_column_iff.mp reference) resolved listed operand numbered

private theorem survey_inList {scope : Scope}
    (walked : ((Expr.inList negated needle items).bindings scope).outcome = .ok found) :
    Surveyed (Binds scope (.inList negated needle items)) found := by
  rw [Expr.bindings] at walked
  split at walked
  case h_1 parts reference =>
    obtain ⟨column, resolved, walked⟩ := Walk.bind_ok_iff.mp walked
    rw [listBindings_outcome] at walked
    obtain rfl := Except.ok.inj walked
    rw [resolve_ok_iff] at resolved
    refine (survey_items column items 1).congr fun path param bound => ?_
    rw [binds_inList_iff]
    constructor
    · intro given
      obtain ⟨parts', index, item, reference', resolved', listed, ordinal, rfl⟩ := given
      obtain rfl := Operand.column.inj (reference.symm.trans reference')
      exact ⟨index, item, listed, ordinal, rfl, Option.some.inj (resolved'.symm.trans resolved)⟩
    · intro given
      obtain ⟨index, item, listed, ordinal, rfl, rfl⟩ := given
      exact ⟨parts, index, item, reference, resolved, listed, ordinal, rfl⟩
  case h_2 none =>
    obtain rfl := Except.ok.inj walked
    refine .nil fun path param column bound => ?_
    obtain ⟨parts, -, -, reference, -⟩ := binds_inList_iff.mp bound
    exact none parts reference

private theorem survey_of_halts (halts : Expr.Halts root)
    (survey : Surveyed (Binds scope root) found) : Surveyed (Site root scope) found :=
  survey.congr fun _ _ _ => site_iff_of_halts halts

/-- A comparison that is not followed into a WHERE clause binds at most its own right side. -/
private theorem survey_binary {scope : Scope} {left right : Expr}
    (stops : ∀ query block condition, ¬ Expr.Continues right query block condition)
    (walked : ((Expr.binary op left right).bindings scope).outcome = .ok found) :
    Surveyed (Site (.binary op left right) scope) found := by
  have halts : Expr.Halts (.binary op left right) := by
    intro path levels part reached
    cases reached with
    | here => exact ⟨rfl, rfl, rfl⟩
    | subquery next inside => exact absurd next (stops _ _ _)
  apply survey_of_halts halts
  by_cases operand : ∃ query, right.bare = .subquery query
  · obtain ⟨query, operand⟩ := operand
    have unbound (path param column) : ¬ Binds scope (.binary op left right) path param column := by
      rintro (⟨_, _, other, _⟩ | ⟨_, _, other, _⟩) <;> cases operand.symm.trans other
    rw [bindings_of_subquery operand, Walk.outcome_bind (Walk.outcome_emit _)] at walked
    rcases Query.bindings_eq_nil_or walked with rfl | ⟨block, condition, form, clause⟩
    · exact .nil unbound
    · exact absurd ⟨operand, form, clause⟩ (stops query block condition)
  · rw [bindings_of_comparison (not_exists.mp operand)] at walked
    exact survey_comparison walked

/-- A predicate that is only reported has no sites. -/
private theorem survey_unsupported
    (halts : Expr.Halts root) (unbound : ∀ path param column, ¬ Binds scope root path param column)
    (walked : (Expr.bindings.unsupported root).outcome = .ok found) :
    Surveyed (Site root scope) found := by
  obtain rfl := Except.ok.inj walked
  exact survey_of_halts halts (.nil unbound)

/-- A successful walk finds the sites of a predicate, in the order of their positions. -/
theorem survey (root : Expr) (scope : Scope) (found : List Binding)
    (walked : (root.bindings scope).outcome = .ok found) : Surveyed (Site root scope) found := by
  induction root using Expr.walk_induction generalizing scope found with
  | nested inner ih =>
    rw [Expr.bindings] at walked
    exact (ih scope found walked).shift [0] fun _ _ _ => site_nested_iff
  | negation operand ih =>
    rw [Expr.bindings] at walked
    exact (ih scope found walked).shift [0] fun _ _ _ => site_negation_iff
  | logical connective left right ihLeft ihRight =>
    obtain ⟨first, second, leftDone, rightDone, rfl, -⟩ := bindings_logical_ok walked
    have early := (ihLeft scope first leftDone).shift [0] fun _ _ _ => Iff.rfl
    have late := (ihRight scope second rightDone).shift [1] fun _ _ _ => Iff.rfl
    refine early.append late ?_ fun _ _ _ => site_logical_iff
    rintro _ _ _ _ _ _ ⟨rest, rfl, -⟩ ⟨rest', rfl, -⟩
    exact List.cons_lt_cons_iff.mpr (.inl Nat.zero_lt_one)
  | binary op left right ih =>
    by_cases next : ∃ query block condition, Expr.Continues right query block condition
    · obtain ⟨query, block, condition, next⟩ := next
      obtain ⟨inner, nested, continued, -⟩ := bindings_continues_ok next walked
      exact (ih query block condition next inner found continued).shift
        (bodySteps right query ++ [block.conditionIndex]) fun _ _ _ => site_continues_iff next nested
    · refine survey_binary ?_ walked
      intro query block condition actual
      exact next ⟨query, block, condition, actual⟩
  | inList negated needle items =>
    refine survey_of_halts ?_ (survey_inList walked)
    rintro _ _ _ ⟨⟩
    exact ⟨rfl, rfl, rfl⟩
  | isNull negated operand =>
    rw [Expr.bindings] at walked
    obtain rfl := Except.ok.inj walked
    refine survey_of_halts ?_ (.nil fun _ _ _ bound => by cases bound)
    rintro _ _ _ ⟨⟩
    exact ⟨rfl, rfl, rfl⟩
  | column | literal | subquery | phrase =>
    rw [Expr.bindings] at walked
    refine survey_unsupported ?_ (fun _ _ _ bound => by cases bound) walked
    rintro _ _ _ ⟨⟩
    exact ⟨rfl, rfl, rfl⟩

/-- A successful walk binds exactly the parameters that have a site, each to the column of the site
behind which it has no other. -/
theorem Expr.bound_to_last_site {root : Expr} {scope : Scope} {found : List Binding}
    (walked : (root.bindings scope).outcome = .ok found) (param : Param) :
    (param ∈ (ParamMap.ofList found).keys ↔ ∃ path column, Site root scope path param column) ∧
      ∀ column, (ParamMap.ofList found).get? param = some column ↔
        ∃ path, Site root scope path param column ∧
          ∀ later other, Site root scope later param other → ¬ path < later := by
  have surveyed := survey root scope found walked
  constructor
  · rw [ParamMap.mem_keys_ofList]
    simp only [surveyed.mem_iff]
    exact exists_comm
  · intro column
    rw [ParamMap.get?_ofList_eq_some_iff]
    exact surveyed.last_iff param column

/-- `"a" = $1 OR "b" = ((SELECT … FROM "u" WHERE "c" IN ($2, ($1))))` -/
def repeatedParam : Expr :=
  .logical .or
    (.binary (.symbol "=") (.column [⟨"a", some .double⟩]) (.literal (.placeholder "$1")))
    (.binary (.symbol "=") (.column [⟨"b", some .double⟩])
      (.nested (.subquery ⟨[], .select ⟨[], [⟨.table [⟨"u", some .double⟩] none, []⟩], [],
        some (.inList false (.column [⟨"c", some .double⟩])
          [.literal (.placeholder "$2"), .nested (.literal (.placeholder "$1"))]), []⟩, []⟩)))

/-- A parameter that is bound outside a subquery and again inside of it. -/
theorem Expr.bound_to_last_site_in_subquery :
    ∃ found, (repeatedParam.bindings .empty).outcome = .ok found ∧ found.length = 3 ∧
      ∃ path, Site repeatedParam .empty path ⟨1, by decide, by decide⟩
          { relation := ⟨none, "u"⟩, name := "c" } ∧
        ∀ later other, Site repeatedParam .empty later ⟨1, by decide, by decide⟩ other →
          ¬ path < later := by
  have walked : (repeatedParam.bindings .empty).outcome =
      .ok [(⟨1, by decide, by decide⟩, { relation := .notFound, name := "a" }),
        (⟨2, by decide, by decide⟩, { relation := ⟨none, "u"⟩, name := "c" }),
        (⟨1, by decide, by decide⟩, { relation := ⟨none, "u"⟩, name := "c" })] := rfl
  exact ⟨_, walked, rfl, ((Expr.bound_to_last_site walked _).2 _).mp rfl⟩

end SqlBinding
