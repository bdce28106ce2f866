import SqlBinding.Proofs.Run

namespace SqlBinding

/-- Events that belong to the walk over a statement, not to what stands around it. -/
def Event.isInner : Event → Bool
  | unreadable .. | furtherStatements .. | analyzing .. | analyzed .. => false
  | unsupported .. | relationInScope .. | noRelation .. | select .. | insert .. | update ..
  | delete .. | otherStatement | subquery => true

/-- The warning that an event tells of, if any. -/
def Event.warning? : Event → Option Warning
  | unsupported warning => some warning
  | _ => none

namespace Walk
variable {α β : Type}

/-- A walk that tells only events of walks, and among them each of its warnings in turn. -/
structure Inner (walk : Walk α) : Prop where
  events : ∀ event ∈ walk.events, event.isInner = true
  reported : walk.events.filterMap Event.warning? = walk.warnings

namespace Inner

theorem pure (value : α) : Inner (pure value) := ⟨List.forall_mem_nil _, rfl⟩

theorem fail (cause : Malformed) : Inner (fail cause : Walk α) := ⟨List.forall_mem_nil _, rfl⟩

theorem emit {event : Event} (inner : event.isInner = true) (silent : event.warning? = none) :
    Inner (emit event) where
  events := List.forall_mem_singleton.mpr inner
  reported := List.filterMap_cons_none silent

theorem warn (kind : Warning.Kind) (node : String) : Inner (warn kind node) where
  events := List.forall_mem_singleton.mpr rfl
  reported := rfl

theorem require (cause : Malformed) (found : Option α) : Inner (require cause found) := by
  cases found with
  | none => exact fail cause
  | some value => exact pure value

theorem bind {walk : Walk α} {next : α → Walk β} (first : Inner walk)
    (rest : ∀ value, Inner (next value)) : Inner (walk >>= next) := by
  cases done : walk.outcome with
  | error cause =>
    rw [bind_of_error done]
    exact ⟨first.events, first.reported⟩
  | ok value =>
    have later := rest value
    constructor
    · rw [events_bind done]
      exact List.forall_mem_append.mpr ⟨first.events, later.events⟩
    · rw [events_bind done, warnings_bind done, List.filterMap_append, first.reported,
        later.reported]

/-- A report on the way to a value. -/
theorem report (kind : Warning.Kind) (node : String) (value : α) :
    Inner (do Walk.warn kind node; return value) :=
  (warn kind node).bind fun _ => pure value

theorem gather {step : α → Walk (List β)} (each : ∀ item, Inner (step item)) (items : List α) :
    Inner (gather step items) := by
  induction items with
  | nil => exact pure []
  | cons first rest ih =>
    exact (each first).bind fun _ => ih.bind fun _ => pure _

end Inner
end Walk

open Walk (Inner)

theorem declareTable_inner (name : Name) (label : Option Alias) : Inner (declareTable name label) :=
  (Inner.require _ _).bind fun _ => (Inner.emit rfl rfl).bind fun _ => .pure _

mutual

theorem Factor.declarations_inner : ∀ factor : Factor, Inner factor.declarations
  | .table name label => by
    rw [Factor.declarations]
    exact declareTable_inner name label
  | .call name _ _ label _ => by
    rw [Factor.declarations]
    exact declareTable_inner name label
  | .join inner _ => by
    rw [Factor.declarations]
    exact inner.declarations_inner
  | .other _ _ => by
    rw [Factor.declarations]
    exact (Inner.emit rfl rfl).bind fun _ => .pure _

theorem Source.declarations_inner : ∀ source : Source, Inner source.declarations
  | ⟨factor, joins⟩ => by
    rw [Source.declarations]
    exact factor.declarations_inner.bind fun _ =>
      (declarationsOfJoins_inner joins).bind fun _ => .pure _

theorem declarationsOfJoins_inner : ∀ joins : List Join, Inner (declarationsOfJoins joins)
  | [] => by
    rw [declarationsOfJoins]
    exact .pure _
  | ⟨_, factor, _⟩ :: rest => by
    rw [declarationsOfJoins]
    exact factor.declarations_inner.bind fun _ =>
      (declarationsOfJoins_inner rest).bind fun _ => .pure _

end

theorem Scope.ofSources_inner (sources : List Source) : Inner (Scope.ofSources sources) :=
  (Inner.gather Source.declarations_inner sources).bind fun _ => .pure _

theorem Scope.nested_inner (parent : Option Scope) (sources : List Source) :
    Inner (Scope.nested parent sources) :=
  (Scope.ofSources_inner sources).bind fun _ => .pure _

theorem Scope.resolve_inner (scope : Scope) (parts : Name) : Inner (scope.resolve parts) := by
  unfold Scope.resolve
  simp only
  split
  · exact (Inner.warn _ _).bind fun _ => .require _ _
  · exact .require _ _

theorem listBindings_inner (column : Column) (items : List Expr) :
    Inner (listBindings column items) := by
  apply Inner.gather
  intro item
  split
  · exact .pure _
  · exact .report _ _ _
  · exact .pure _

theorem comparisonBindings_inner (scope : Scope) (comparison : String) (left right : Operand) :
    Inner (comparisonBindings scope comparison left right) := by
  unfold comparisonBindings
  split
  · exact (scope.resolve_inner _).bind fun _ => .pure _
  · exact (scope.resolve_inner _).bind fun _ => .pure _
  · exact .pure _
  · exact .report _ _ _
  · exact .report _ _ _

/-- Of a query only the WHERE clause matters: what is told before it is told of walks. -/
theorem Query.core_inner (query : Query) (parent : Option Scope)
    (clauses : ∀ block condition, query.core = .select block → block.selection = some condition →
      ∀ scope, Inner (condition.bindings scope)) : Inner (query.core.bindings parent) := by
  cases form : query.core with
  | query inner => exact absurd form (query.core_ne_query inner)
  | select block =>
    rw [bindings_of_select]
    refine (Scope.nested_inner parent block.sources).bind fun scope =>
      (Inner.emit rfl rfl).bind fun _ => ?_
    cases clause : block.selection with
    | none =>
      rw [selectionBindings]
      exact .pure _
    | some condition =>
      rw [selectionBindings]
      exact clauses block condition form clause scope
  | values rows marked =>
    rw [Body.bindings]
    exact .report _ _ _
  | phrase parts =>
    rw [Body.bindings]
    exact .report _ _ _

theorem Expr.bindings_inner (expr : Expr) (scope : Scope) : Inner (expr.bindings scope) := by
  induction expr using Expr.walk_induction generalizing scope with
  | nested inner ih =>
    rw [Expr.bindings]
    exact ih scope
  | negation operand ih =>
    rw [Expr.bindings]
    exact ih scope
  | logical connective left right ihLeft ihRight =>
    rw [Expr.bindings]
    exact (ihLeft scope).bind fun _ => (ihRight scope).bind fun _ => .pure _
  | binary op left right ih =>
    by_cases operand : ∃ query, right.bare = .subquery query
    · obtain ⟨query, operand⟩ := operand
      rw [bindings_of_subquery operand]
      refine (Inner.emit rfl rfl).bind fun _ => query.core_inner (some scope) ?_
      intro block condition form clause inside
      exact ih query block condition ⟨operand, form, clause⟩ inside
    · rw [bindings_of_comparison (not_exists.mp operand)]
      exact comparisonBindings_inner _ _ _ _
  | inList negated needle items =>
    rw [Expr.bindings]
    split
    · exact (scope.resolve_inner _).bind fun column => listBindings_inner column items
    · exact .report _ _ _
  | isNull =>
    rw [Expr.bindings]
    exact .pure _
  | column | literal | subquery | phrase =>
    rw [Expr.bindings]
    exact .report _ _ _

theorem selectionBindings_inner (selection : Option Expr) (scope : Scope) :
    Inner (selectionBindings selection scope) := by
  cases selection with
  | none =>
    rw [selectionBindings]
    exact .pure _
  | some condition =>
    rw [selectionBindings]
    exact condition.bindings_inner scope

theorem Query.bindings_inner (query : Query) (parent : Option Scope) :
    Inner (query.bindings parent) := by
  rw [Query.bindings_core]
  exact query.core_inner parent fun _ condition _ _ scope => condition.bindings_inner scope

namespace Insert

theorem cellBindings_inner (relation : Relation) (target : Option Ident) (cell : Expr) :
    Inner (cellBindings relation target cell) := by
  unfold cellBindings
  split
  · exact .pure _
  · exact .report _ _ _
  · exact .report _ _ _
  · exact .pure _

theorem rowBindings_inner (relation : Relation) (columns : List Ident) (row : List Expr) :
    Inner (rowBindings relation columns row) := by
  induction row generalizing columns with
  | nil =>
    rw [rowBindings]
    exact .pure _
  | cons cell row ih =>
    rw [rowBindings]
    exact (cellBindings_inner relation _ cell).bind fun _ => (ih columns.tail).bind fun _ => .pure _

theorem bindings_inner (insertion : Insert) : Inner insertion.bindings := by
  have stored (relation : Relation) :
      Inner (sourceBindings relation insertion.columns insertion.source) := by
    unfold sourceBindings
    split
    · exact .report _ _ _
    · split
      · exact rowBindings_inner _ _ _
      · exact .report _ _ _
  unfold bindings
  split
  · exact (Inner.require _ _).bind fun relation => (Inner.emit rfl rfl).bind fun _ => stored relation
  · exact .report _ _ _

end Insert

namespace Update

theorem assignmentBindings_inner (relation : Relation) (assignment : Assignment) :
    Inner (assignmentBindings relation assignment) := by
  unfold assignmentBindings
  split
  · exact .report _ _ _
  · split
    · exact (Inner.require _ _).bind fun _ => .pure _
    · exact .report _ _ _
    · exact .pure _

theorem scope_inner (change : Update) : Inner change.scope := by
  refine (Scope.ofSources_inner _).bind fun _ => ?_
  split
  · exact .pure _
  · exact (Scope.ofSources_inner _).bind fun _ => .pure _

theorem bindings_inner (change : Update) : Inner change.bindings := by
  unfold bindings
  split
  · exact .report _ _ _
  · refine (Inner.require _ _).bind fun relation => (Inner.emit rfl rfl).bind fun _ =>
      (Inner.gather (assignmentBindings_inner relation) _).bind fun _ => ?_
    split
    · exact .pure _
    · exact change.scope_inner.bind fun scope =>
        (Expr.bindings_inner _ scope).bind fun _ => .pure _

end Update

theorem Delete.bindings_inner (deletion : Delete) : Inner deletion.bindings := by
  have entered : Inner deletion.scope := by
    unfold Delete.scope
    split
    · exact .pure _
    · exact (Factor.declarations_inner _).bind fun _ => .pure _
  exact entered.bind fun scope => (Inner.emit rfl rfl).bind fun _ => selectionBindings_inner _ scope

/-- The walk over a statement tells nothing of what stands around it. -/
theorem Statement.bindings_inner (statement : Statement) : Inner statement.bindings := by
  cases statement with
  | query inner => exact inner.bindings_inner none
  | insert insertion => exact insertion.bindings_inner
  | update change => exact change.bindings_inner
  | delete deletion => exact deletion.bindings_inner
  | other parts =>
    exact (Inner.emit rfl rfl).bind fun _ => .report _ _ _

namespace Event

theorem message_ne_of_isInner {event : Event} (inner : event.isInner = true) :
    event.message ≠ "analyzed" := by
  cases event with
  | unreadable | furtherStatements | analyzing | analyzed => cases inner
  | _ => simp [message]

/-- The events about unsupported syntax carry the warnings. -/
theorem filter_unsupported (events : List Event) :
    (events.filter fun event => event.message == "not supported").map fields =
      (events.filterMap warning?).map fun warning =>
        [("kind", .text warning.kind.describe), ("node", .text warning.node)] := by
  induction events with
  | nil => rfl
  | cons event rest ih =>
    cases event with
    | unsupported warning => exact congrArg (List.cons _) ih
    | _ => exact ih

end Event

namespace Statement

theorem analyze_events_of_ok {statement : Statement}
    (walked : statement.bindings.outcome = .ok found) :
    statement.analyze.events =
      (.analyzing statement.render :: statement.bindings.events) ++
        [(Analysis.ofBindings statement statement.bindings found).summary] := by
  rw [analyze, Walk.events_bind (Walk.outcome_emit _), Walk.events_bind walked,
    Walk.events_bind (Walk.outcome_emit _)]
  rfl

theorem analyze_events_of_error {statement : Statement}
    (failed : statement.bindings.outcome = .error cause) :
    statement.analyze.events = .analyzing statement.render :: statement.bindings.events := by
  rw [analyze, Walk.events_bind (Walk.outcome_emit _), Walk.bind_of_error failed]
  rfl

/-- The warnings of an answer are told in their order: neither the opening event nor the closing one
tells of a warning, and the walk between them tells of each of its own. -/
theorem analyze_reported {statement : Statement} (walked : statement.bindings.outcome = .ok found) :
    statement.analyze.events.filterMap Event.warning? = statement.bindings.warnings := by
  rw [analyze_events_of_ok walked, List.filterMap_append, List.filterMap_cons_none rfl,
    List.filterMap_cons_none rfl, List.filterMap_nil, List.append_nil,
    statement.bindings_inner.reported]

/-- What is told of an analysis: first the statement; last, and only if there is an answer, its sizes;
and the reports of unsupported syntax in between are the warnings of the answer. -/
theorem analyze_trace (statement : Statement) :
    (∃ rest, statement.analyze.events = .analyzing statement.render :: rest) ∧
    ((∃ event ∈ statement.analyze.events, event.message = "analyzed") ↔
      ∃ analysis, statement.analyze.outcome = .ok analysis) ∧
    ∀ analysis, statement.analyze.outcome = .ok analysis →
      (statement.analyze.events.filter fun event => event.message == "not supported").map
          Event.fields =
        analysis.warnings.map (fun warning =>
          [("kind", .text warning.kind.describe), ("node", .text warning.node)]) ∧
      ∃ before last, statement.analyze.events = before ++ [last] ∧
        (∀ event ∈ before, event.message ≠ "analyzed") ∧ last.message = "analyzed" ∧
        last.fields = [("params", .count analysis.params.size),
          ("warnings", .count analysis.warnings.length),
          ("placeholders", .count analysis.placeholders.size)] := by
  have opening : Event.message (.analyzing statement.render) ≠ "analyzed" := by
    simp [Event.message]
  have unclosed : ∀ event ∈ Event.analyzing statement.render :: statement.bindings.events,
      event.message ≠ "analyzed" :=
    List.forall_mem_cons.mpr ⟨opening, fun event member =>
      Event.message_ne_of_isInner (statement.bindings_inner.events event member)⟩
  rw [statement.analyze_outcome]
  cases walked : statement.bindings.outcome with
  | error cause =>
    rw [analyze_events_of_error walked]
    refine ⟨⟨_, rfl⟩, iff_of_false ?_ nofun, nofun⟩
    rintro ⟨event, member, closing⟩
    exact unclosed event member closing
  | ok found =>
    have told := analyze_events_of_ok walked
    have closed : ∃ event ∈ statement.analyze.events, event.message = "analyzed" := by
      rw [told]
      exact ⟨_, List.mem_append_right _ List.mem_cons_self, rfl⟩
    refine ⟨⟨_, told⟩, iff_of_true closed ⟨_, rfl⟩, ?_⟩
    intro analysis answered
    obtain rfl := Except.ok.inj answered
    refine ⟨?_, _, _, told, unclosed, rfl, rfl⟩
    rw [Event.filter_unsupported, analyze_reported walked]
    rfl

/-- `DELETE FROM "t" WHERE "a" = $1 AND "b" = :x OR NULL` -/
def partlyUnderstood : Statement :=
  .delete ⟨[], true, [⟨.table [⟨"t", some .double⟩] none, []⟩], none,
    some (.logical .or (.logical .and
      (.binary (.symbol "=") (.column [⟨"a", some .double⟩]) (.literal (.placeholder "$1")))
      (.binary (.symbol "=") (.column [⟨"b", some .double⟩]) (.literal (.placeholder ":x"))))
      (.literal .null)), []⟩

/-- One parameter is bound, and two warnings are among the events. -/
theorem analyze_trace_partly :
    ∃ analysis, partlyUnderstood.analyze.outcome = .ok analysis ∧
      (partlyUnderstood.analyze.events.filter fun event => event.message == "not supported").map
          Event.fields =
        [[("kind", .text "placeholder"), ("node", .text ":x")],
          [("kind", .text "where clause"), ("node", .text "NULL")]] ∧
      ∃ before last, partlyUnderstood.analyze.events = before ++ [last] ∧
        (∀ event ∈ before, event.message ≠ "analyzed") ∧ last.message = "analyzed" ∧
        last.fields =
          [("params", .count 1), ("warnings", .count 2), ("placeholders", .count 1)] := by
  have answered : ∃ analysis, partlyUnderstood.analyze.outcome = .ok analysis := ⟨_, rfl⟩
  obtain ⟨analysis, answered⟩ := answered
  have told := (analyze_trace partlyUnderstood).2.2 analysis answered
  obtain rfl := Except.ok.inj answered
  exact ⟨_, rfl, told⟩

end Statement
end SqlBinding
