import SqlBinding.Proofs.Site

/-! What becomes of each ordinal placeholder in a WHERE clause. The walk binds its parameter there, or
reports a node around it, or passes over it in silence; and silence is kept only at a few positions,
which are listed here by the form of the predicate around them.
-/

namespace SqlBinding

/-- A right side of a comparison next to which the left side does not count. -/
inductive Expr.Eclipses (right : Expr) : Prop where
  | column (bare : right.bare = .column parts)
  | subquery (bare : right.bare = .subquery query)
  | unnumbered (bare : right.bare = .literal (.placeholder text)) (none : Param.ofText? text = none)

/-- A position that the walk of a predicate passes over without a word. -/
inductive Silent (root : Expr) : List Nat → Prop where
  /-- In the operand of IS NULL or IS NOT NULL. -/
  | nullTest (reached : root.Reaches outer levels (.isNull negated operand)) :
      Silent root (outer ++ 0 :: rest)
  | leftSide (reached : root.Reaches outer levels (.binary op left right))
      (eclipsed : right.Eclipses) : Silent root (outer ++ 0 :: rest)
  /-- In an item of an IN list behind a column, where the item is no placeholder. -/
  | item (reached : root.Reaches outer levels (.inList negated needle items))
      (reference : needle.bare = .column parts) (listed : items[index]? = some item)
      (other : ∀ text, item.bare ≠ .literal (.placeholder text)) :
      Silent root (outer ++ (index + 1) :: rest)
  /-- In a subquery before or behind its innermost body. -/
  | outsideBody (reached : root.Reaches outer levels (.binary op left right))
      (operand : right.bare = .subquery query) (outside : ¬ query.layers <+: rest) :
      Silent root (outer ++ (1 :: right.parens ++ 0 :: rest))
  /-- In the SELECT of a subquery, in its projection, its FROM clause or its grouping. -/
  | outsideCondition (reached : root.Reaches outer levels (.binary op left right))
      (operand : right.bare = .subquery query) (body : query.core = .select block)
      (outside : block.selection = none ∨ index ≠ block.conditionIndex) :
      Silent root (outer ++ (bodySteps right query ++ index :: rest))

/-- A node, at its position, that the walk of a predicate only reports. -/
inductive Reported (root : Expr) (scope : Scope) : List Nat → Node → Warning.Kind → Prop where
  | predicate (reached : root.Reaches outer levels part)
      (entered : (scope.within levels).outcome = .ok current)
      (reports : part.bindings current = Expr.bindings.unsupported part) :
      Reported root scope outer (.expr part) .whereClause
  | body (reached : root.Reaches outer levels (.binary op left right))
      (entered : (scope.within levels).outcome = .ok current)
      (operand : right.bare = .subquery query)
      (reports : query.core.bindings (some current) = Body.bindings.unsupported query.core) :
      Reported root scope (outer ++ bodySteps right query) (.body query.core) .selectBody

theorem Reported.at? (reported : Reported root scope path node kind) :
    (Node.expr root).at? path = some node := by
  cases reported with
  | predicate reached => exact reached.at?
  | body reached entered operand =>
    rw [Node.at?_append, reached.at?]
    simpa using Expr.at?_bodySteps operand []

/-- A reported node has its warning among those of the walk. -/
theorem Reported.mem_warnings (reported : Reported root scope path node kind)
    (walked : (root.bindings scope).outcome = .ok found) :
    ⟨kind, node.render⟩ ∈ (root.bindings scope).warnings := by
  cases reported with
  | predicate reached entered reports =>
    obtain ⟨current, own, entered', done, part⟩ := reached.walked walked
    obtain rfl := Except.ok.inj (entered.symm.trans entered')
    refine part.warnings.subset ?_
    rw [reports]
    exact List.mem_singleton_self _
  | body reached entered operand reports =>
    obtain ⟨current, own, entered', done, part⟩ := reached.walked walked
    obtain rfl := Except.ok.inj (entered.symm.trans entered')
    refine part.warnings.subset ?_
    rw [bindings_of_subquery operand, Walk.warnings_bind (Walk.outcome_emit _), reports]
    exact List.mem_append_right _ (List.mem_singleton_self _)

theorem Expr.placeholders_bare (expr : Expr) : expr.bare.placeholders = expr.placeholders := by
  fun_induction Expr.bare expr with
  | case1 inner ih =>
    rw [Expr.placeholders]
    exact ih
  | case2 expr plain => rfl

theorem JsonKey.placeholders_eq_nil (key : JsonKey expr text) : expr.placeholders = [] := by
  rw [← expr.placeholders_bare]
  cases key with
  | string bare => rw [bare]; rfl
  | number bare => rw [bare]; rfl

theorem JsonChain.placeholders_eq_nil (chain : JsonChain expr parts keys asText) :
    expr.placeholders = [] := by
  induction chain with
  | first bare access key column =>
    rw [← Expr.placeholders_bare, bare, Expr.placeholders, key.placeholders_eq_nil,
      ← Expr.placeholders_bare, column]
    rfl
  | next bare access key chain ih =>
    rw [← Expr.placeholders_bare, bare, Expr.placeholders, key.placeholders_eq_nil, ih]
    rfl

theorem Expr.placeholders_of_column {expr : Expr} (reference : expr.bare = .column parts) :
    expr.placeholders = [] := by
  rw [← expr.placeholders_bare, reference, Expr.placeholders]

theorem Expr.at?_ne_placeholder {expr : Expr} (clear : expr.placeholders = []) :
    (Node.expr expr).at? path ≠ some (.placeholder text) := by
  intro here
  have member : text ∈ (Node.expr expr).placeholders := Node.mem_placeholders_iff.mpr ⟨path, here⟩
  rw [Node.placeholders, clear] at member
  cases member

/-- The way from a node to a placeholder in it goes through one of the node's children. -/
theorem Node.at?_child {node : Node} (apart : node ≠ .placeholder text)
    (here : node.at? path = some (.placeholder text)) :
    ∃ index child rest, path = index :: rest ∧ node.children[index]? = some child ∧
      child.at? rest = some (.placeholder text) := by
  cases path with
  | nil => exact absurd (Option.some.inj here) apart
  | cons index rest =>
    obtain ⟨child, listed, inside⟩ := Option.bind_eq_some_iff.mp here
    exact ⟨index, child, rest, rfl, listed, inside⟩

private theorem Node.at?_only {node inner : Node} (apart : node ≠ .placeholder text)
    (only : node.children = [inner]) (here : node.at? path = some (.placeholder text)) :
    ∃ rest, path = 0 :: rest ∧ inner.at? rest = some (.placeholder text) := by
  obtain ⟨index, child, rest, rfl, listed, inside⟩ := Node.at?_child apart here
  obtain ⟨rfl, rfl⟩ : index = 0 ∧ inner = child := by
    simpa [only, List.getElem?_singleton] using listed
  exact ⟨rest, rfl, inside⟩

private theorem Node.at?_either {node first second : Node} (apart : node ≠ .placeholder text)
    (both : node.children = [first, second]) (here : node.at? path = some (.placeholder text)) :
    (∃ rest, path = 0 :: rest ∧ first.at? rest = some (.placeholder text)) ∨
      ∃ rest, path = 1 :: rest ∧ second.at? rest = some (.placeholder text) := by
  obtain ⟨index, child, rest, rfl, listed, inside⟩ := Node.at?_child apart here
  rw [both] at listed
  match index, listed with
  | 0, rfl => exact .inl ⟨rest, rfl, inside⟩
  | 1, rfl => exact .inr ⟨rest, rfl, inside⟩

/-- The way to a placeholder leads through the parentheses around it. -/
theorem Expr.at?_bare {expr : Expr} (here : (Node.expr expr).at? path = some (.placeholder text)) :
    ∃ rest, path = expr.parens ++ rest ∧
      (Node.expr expr.bare).at? rest = some (.placeholder text) := by
  fun_induction Expr.bare expr generalizing path with
  | case1 inner ih =>
    obtain ⟨way, rfl, inside⟩ := Node.at?_only (by simp [Node.placeholder]) rfl here
    obtain ⟨rest, rfl, bare⟩ := ih inside
    exact ⟨rest, rfl, bare⟩
  | case2 expr plain =>
    exact ⟨path, by rw [Expr.parens_eq_nil plain]; rfl, here⟩

/-- The walk of a predicate does not go on along a way into it. -/
def Expr.Stops : Expr → List Nat → Prop
  | .nested _, _ => False
  | .logical _ _ _, _ => False
  | .negation _, _ => False
  | .binary _ _ right, path => ∀ query block condition, Continues right query block condition →
      ¬ bodySteps right query ++ [block.conditionIndex] <+: path
  | _, _ => True

/-- On the way to a placeholder there is a last part that the walk comes to. -/
theorem Expr.Reaches.exists_last (root : Expr) (path : List Nat)
    (here : (Node.expr root).at? path = some (.placeholder text)) :
    ∃ outer levels part rest, path = outer ++ rest ∧ root.Reaches outer levels part ∧
      (Node.expr part).at? rest = some (.placeholder text) ∧ part.Stops rest := by
  induction root using Expr.walk_induction generalizing path with
  | nested inner ih =>
    obtain ⟨rest, rfl, inside⟩ := Node.at?_only (by simp [Node.placeholder]) rfl here
    obtain ⟨outer, levels, part, rest, rfl, reached, last⟩ := ih _ inside
    exact ⟨0 :: outer, levels, part, rest, rfl, .nested reached, last⟩
  | negation operand ih =>
    obtain ⟨rest, rfl, inside⟩ := Node.at?_only (by simp [Node.placeholder]) rfl here
    obtain ⟨outer, levels, part, rest, rfl, reached, last⟩ := ih _ inside
    exact ⟨0 :: outer, levels, part, rest, rfl, .negation reached, last⟩
  | logical connective left right ihLeft ihRight =>
    rcases Node.at?_either (by simp [Node.placeholder]) rfl here with
      ⟨rest, rfl, inside⟩ | ⟨rest, rfl, inside⟩
    · obtain ⟨outer, levels, part, rest, rfl, reached, last⟩ := ihLeft _ inside
      exact ⟨0 :: outer, levels, part, rest, rfl, .left reached, last⟩
    · obtain ⟨outer, levels, part, rest, rfl, reached, last⟩ := ihRight _ inside
      exact ⟨1 :: outer, levels, part, rest, rfl, .right reached, last⟩
  | binary op left right ih =>
    by_cases goes : ∃ query block condition, Expr.Continues right query block condition ∧
        bodySteps right query ++ [block.conditionIndex] <+: path
    · obtain ⟨query, block, condition, next, inside, rfl⟩ := goes
      rw [List.append_assoc, Expr.at?_bodySteps next.operand, next.body, List.singleton_append,
        Select.at?_condition next.clause] at here
      obtain ⟨outer, levels, part, rest, rfl, reached, last⟩ := ih query block condition next _ here
      exact ⟨_, _, part, rest, by simp, .subquery next reached, last⟩
    · refine ⟨[], [], _, path, rfl, .here, here, ?_⟩
      intro query block condition next follows
      exact goes ⟨query, block, condition, next, follows⟩
  | inList | isNull | column | literal | subquery | phrase =>
    exact ⟨[], [], _, path, rfl, .here, here, trivial⟩

/-- The position of a placeholder in an expression that is one when its parentheses are taken off. -/
private theorem Expr.at?_placeholder {expr : Expr} (bare : expr.bare = .literal (.placeholder own))
    (here : (Node.expr expr).at? path = some (.placeholder text)) :
    path = expr.parens ∧ own = text := by
  obtain ⟨rest, rfl, inside⟩ := Expr.at?_bare here
  rw [bare] at inside
  cases rest with
  | nil => simpa [Node.placeholder] using inside
  | cons index rest => simp [Node.at?_cons, Node.children, Expr.children] at inside

/-- What becomes of an ordinal placeholder at a position of a predicate. -/
inductive Accounted (root : Expr) (scope : Scope) (path : List Nat) (param : Param) : Prop where
  | bound (site : Site root scope path param column)
  | reported (node : Reported root scope outer node kind) (around : outer <+: path)
  | silent (position : Silent root path)

private theorem Accounted.inList
    (reached : Expr.Reaches root outer levels (.inList negated needle items))
    (entered : (Scope.within scope levels).outcome = .ok current)
    (done : ((Expr.inList negated needle items).bindings current).outcome = .ok own)
    (here : (Node.expr (.inList negated needle items)).at? path = some (.placeholder text))
    (numbered : Param.ofText? text = some param) :
    Accounted root scope (outer ++ path) param := by
  by_cases reference : ∃ parts, needle.bare = .column parts
  · obtain ⟨parts, reference⟩ := reference
    obtain ⟨index, child, rest, rfl, chosen, inside⟩ :=
      Node.at?_child (by simp [Node.placeholder]) here
    cases index with
    | zero =>
      obtain rfl := Option.some.inj chosen
      exact absurd inside (Expr.at?_ne_placeholder (Expr.placeholders_of_column reference))
    | succ index =>
      obtain ⟨item, listed, rfl⟩ : ∃ item, items[index]? = some item ∧ .expr item = child := by
        simpa [Node.children, Expr.children] using chosen
      by_cases operand : ∃ written, item.bare = .literal (.placeholder written)
      · obtain ⟨written, operand⟩ := operand
        obtain ⟨rfl, rfl⟩ := Expr.at?_placeholder operand inside
        rw [Expr.bindings, Operand.of_eq_column_iff.mpr reference] at done
        obtain ⟨column, resolved, -⟩ := Walk.bind_ok_iff.mp done
        rw [resolve_ok_iff] at resolved
        exact .bound (.mk reached entered (.item reference resolved listed operand numbered))
      · exact .silent (.item reached reference listed (not_exists.mp operand))
  · refine .reported (.predicate reached entered ?_) (List.prefix_append _ _)
    rw [Expr.bindings]
    split
    case h_1 parts column => exact absurd ⟨parts, Operand.of_eq_column_iff.mp column⟩ reference
    case h_2 => rfl

/-- In a comparison that binds, the placeholder on its right side is the only one. -/
private theorem Accounted.binding
    (reached : Expr.Reaches root outer levels (.binary op left right))
    (entered : (Scope.within scope levels).outcome = .ok current) (clear : left.placeholders = [])
    (operand : right.bare = .literal (.placeholder written))
    (binds : ∀ param, Param.ofText? written = some param →
      ∃ column, Binds current (.binary op left right) (1 :: right.parens) param column)
    (here : (Node.expr (.binary op left right)).at? path = some (.placeholder text))
    (numbered : Param.ofText? text = some param) :
    Accounted root scope (outer ++ path) param := by
  rcases Node.at?_either (by simp [Node.placeholder]) rfl here with
    ⟨rest, rfl, inside⟩ | ⟨rest, rfl, inside⟩
  · exact absurd inside (Expr.at?_ne_placeholder clear)
  · obtain ⟨rfl, rfl⟩ := Expr.at?_placeholder operand inside
    obtain ⟨column, bound⟩ := binds param numbered
    exact .bound (.mk reached entered bound)

private theorem Accounted.comparison
    (reached : Expr.Reaches root outer levels (.binary op left right))
    (entered : (Scope.within scope levels).outcome = .ok current)
    (done : ((Expr.binary op left right).bindings current).outcome = .ok own)
    (apart : ∀ query, right.bare ≠ .subquery query)
    (here : (Node.expr (.binary op left right)).at? path = some (.placeholder text))
    (numbered : Param.ofText? text = some param) :
    Accounted root scope (outer ++ path) param := by
  have ways := Node.at?_either (by simp [Node.placeholder]) rfl here
  rw [bindings_of_comparison apart] at done
  cases form : Operand.of right with
  | subquery query => exact absurd (Operand.of_eq_subquery_iff.mp form) (apart query)
  | column parts =>
    have operand := Operand.of_eq_column_iff.mp form
    rcases ways with ⟨rest, rfl, -⟩ | ⟨rest, rfl, inside⟩
    · exact .silent (.leftSide reached (.column operand))
    · exact absurd inside (Expr.at?_ne_placeholder (Expr.placeholders_of_column operand))
  | placeholder written =>
    obtain ⟨operand, unnumbered⟩ := Operand.of_eq_placeholder_iff.mp form
    rcases ways with ⟨rest, rfl, -⟩ | ⟨rest, rfl, inside⟩
    · exact .silent (.leftSide reached (.unnumbered operand unnumbered))
    · obtain ⟨-, rfl⟩ := Expr.at?_placeholder operand inside
      cases unnumbered.symm.trans numbered
  | json parts accessor =>
    refine .reported (.predicate reached entered ?_) (List.prefix_append _ _)
    rw [bindings_of_comparison apart, form]
    cases Operand.of left <;> rfl
  | other =>
    refine .reported (.predicate reached entered ?_) (List.prefix_append _ _)
    rw [bindings_of_comparison apart, form]
    cases Operand.of left <;> rfl
  | param ordinal =>
    obtain ⟨written, operand, -⟩ := Operand.of_eq_param_iff.mp form
    cases reference : Operand.of left with
    | column parts =>
      rw [reference, form] at done
      obtain ⟨column, resolved, -⟩ := Walk.bind_ok_iff.mp done
      rw [resolve_ok_iff] at resolved
      have bare := Operand.of_eq_column_iff.mp reference
      refine .binding reached entered (Expr.placeholders_of_column bare) operand ?_ here numbered
      exact fun param numbered => ⟨column, .column bare resolved operand numbered⟩
    | json parts accessor =>
      rw [reference, form] at done
      obtain ⟨column, resolved, -⟩ := Walk.bind_ok_iff.mp done
      rw [resolve_ok_iff] at resolved
      obtain ⟨keys, asText, chain, rfl⟩ := Operand.of_eq_json_iff.mp reference
      refine .binding reached entered chain.placeholders_eq_nil operand ?_ here numbered
      exact fun param numbered => ⟨_, .json chain resolved operand numbered⟩
    | _ =>
      refine .reported (.predicate reached entered ?_) (List.prefix_append _ _)
      rw [bindings_of_comparison apart, reference, form]
      rfl

private theorem Accounted.subquery
    (reached : Expr.Reaches root outer levels (.binary op left right))
    (entered : (Scope.within scope levels).outcome = .ok current)
    (operand : right.bare = .subquery query)
    (here : (Node.expr (.binary op left right)).at? path = some (.placeholder text))
    (stops : (Expr.binary op left right).Stops path) :
    Accounted root scope (outer ++ path) param := by
  rcases Node.at?_either (by simp [Node.placeholder]) rfl here with
    ⟨rest, rfl, -⟩ | ⟨way, rfl, entering⟩
  · exact .silent (.leftSide reached (.subquery operand))
  obtain ⟨way, rfl, bare⟩ := Expr.at?_bare entering
  rw [operand] at bare
  obtain ⟨rest, rfl, inside⟩ := Node.at?_only (by simp [Node.placeholder]) rfl bare
  by_cases layered : query.layers <+: rest
  · obtain ⟨tail, rfl⟩ := layered
    have steps : 1 :: (right.parens ++ 0 :: (query.layers ++ tail)) =
        bodySteps right query ++ tail := by simp [bodySteps]
    rw [steps] at stops ⊢
    rw [Query.at?_layers] at inside
    cases form : query.core with
    | query enclosed => exact absurd form (query.core_ne_query enclosed)
    | select block =>
      rw [form] at inside
      obtain ⟨index, child, rest, rfl, -⟩ := Node.at?_child (by simp [Node.placeholder]) inside
      refine .silent (.outsideCondition reached operand form ?_)
      cases clause : block.selection with
      | none => exact .inl rfl
      | some condition =>
        refine .inr fun same => stops query block condition ⟨operand, form, clause⟩ ?_
        exact ⟨rest, by simp [same]⟩
    | values rows marked =>
      refine .reported (.body reached entered operand ?_) ⟨tail, by simp⟩
      rw [form, Body.bindings]
    | phrase parts =>
      refine .reported (.body reached entered operand ?_) ⟨tail, by simp⟩
      rw [form, Body.bindings]
  · exact .silent (.outsideBody reached operand layered)

/-- No ordinal placeholder of a predicate is lost without account in a successful walk. -/
theorem Accounted.of_occurs (walked : (Expr.bindings root scope).outcome = .ok found)
    (occurs : Node.Occurs (.expr root) path param) : Accounted root scope path param := by
  obtain ⟨text, here, numbered⟩ := occurs
  obtain ⟨outer, levels, part, rest, rfl, reached, here, stops⟩ :=
    Expr.Reaches.exists_last root path here
  obtain ⟨current, own, entered, done, -⟩ := reached.walked walked
  have reported (reports : part.bindings current = Expr.bindings.unsupported part) :
      Accounted root scope (outer ++ rest) param :=
    .reported (.predicate reached entered reports) (List.prefix_append _ _)
  cases part with
  | nested | logical | negation => exact stops.elim
  | literal | column | subquery | phrase => exact reported (by rw [Expr.bindings])
  | isNull negated operand =>
    obtain ⟨rest, rfl, -⟩ := Node.at?_only (by simp [Node.placeholder]) rfl here
    exact .silent (.nullTest reached)
  | inList negated needle items => exact .inList reached entered done here numbered
  | binary op left right =>
    by_cases operand : ∃ query, right.bare = .subquery query
    · obtain ⟨query, operand⟩ := operand
      exact .subquery reached entered operand here stops
    · exact .comparison reached entered done (not_exists.mp operand) here numbered

/-- Each ordinal placeholder in a WHERE clause that is walked with success is a site of its parameter,
which is then bound, or stands in a node that the walk has a warning of, or at a silent position. -/
theorem Expr.placeholder_accounted {root : Expr} {scope : Scope} {found : List Binding}
    {path : List Nat} {param : Param} (walked : (root.bindings scope).outcome = .ok found)
    (occurs : Node.Occurs (.expr root) path param) :
    (param ∈ (ParamMap.ofList found).keys ∧ ∃ column, Site root scope path param column) ∨
      (∃ outer node kind, outer <+: path ∧ (Node.expr root).at? outer = some node ∧
        Reported root scope outer node kind ∧ (kind = .whereClause ∨ kind = .selectBody) ∧
        ⟨kind, node.render⟩ ∈ (root.bindings scope).warnings) ∨
      Silent root path := by
  cases Accounted.of_occurs walked occurs with
  | bound site =>
    have listed := ((survey root scope found walked).mem_iff _ _).mpr ⟨path, site⟩
    exact .inl ⟨(ParamMap.mem_keys_ofList _ _).mpr ⟨_, listed⟩, _, site⟩
  | @reported outer node kind reported around =>
    refine .inr (.inl ⟨outer, node, kind, around, reported.at?, reported, ?_,
      reported.mem_warnings walked⟩)
    cases reported with
    | predicate => exact .inl rfl
    | body => exact .inr rfl
  | silent position => exact .inr (.inr position)

/-- `"a" = $1 AND "b" = ((VALUES ($2)))` -/
def rowComparison : Expr :=
  .logical .and
    (.binary (.symbol "=") (.column [⟨"a", some .double⟩]) (.literal (.placeholder "$1")))
    (.binary (.symbol "=") (.column [⟨"b", some .double⟩])
      (.nested (.subquery ⟨[], .values [[.literal (.placeholder "$2")]] false, []⟩)))

/-- A placeholder in a body that is no SELECT. -/
theorem Expr.placeholder_accounted_in_values :
    ∃ found, (rowComparison.bindings .empty).outcome = .ok found ∧
      Node.Occurs (.expr rowComparison) [1, 1, 0, 0, 0, 0] ⟨2, by decide, by decide⟩ ∧
      ((⟨2, by decide, by decide⟩ ∈ (ParamMap.ofList found).keys ∧
          ∃ column, Site rowComparison .empty [1, 1, 0, 0, 0, 0] ⟨2, by decide, by decide⟩ column) ∨
        (∃ outer node kind, outer <+: [1, 1, 0, 0, 0, 0] ∧
          (Node.expr rowComparison).at? outer = some node ∧
          Reported rowComparison .empty outer node kind ∧
          (kind = .whereClause ∨ kind = .selectBody) ∧
          ⟨kind, node.render⟩ ∈ (rowComparison.bindings .empty).warnings) ∨
        Silent rowComparison [1, 1, 0, 0, 0, 0]) := by
  have walked : (rowComparison.bindings .empty).outcome =
      .ok [(⟨1, by decide, by decide⟩, { relation := .notFound, name := "a" })] := rfl
  have occurs : Node.Occurs (.expr rowComparison) [1, 1, 0, 0, 0, 0] ⟨2, by decide, by decide⟩ :=
    ⟨"$2", rfl, by decide⟩
  exact ⟨_, walked, occurs, Expr.placeholder_accounted walked occurs⟩

end SqlBinding
