import SqlBinding.Proofs.Site
import SqlBinding.Proofs.Run

/-! When an analysis fails. The walk of a statement reads some of its names, and it fails at the first
one of these that has no parts. A malformed name anywhere else does no harm.
-/

namespace SqlBinding

/-- A predicate at which its walk reads a malformed name. -/
inductive Expr.Stumbles : Expr → Malformed → Prop where
  | column (reference : left.bare = .column []) (ordinal : right.IsOrdinal) :
      Stumbles (.binary op left right) .emptyColumnRef
  | json (chain : JsonChain left [] keys asText) (ordinal : right.IsOrdinal) :
      Stumbles (.binary op left right) .emptyColumnRef
  | needle (reference : needle.bare = .column []) :
      Stumbles (.inList negated needle items) .emptyColumnRef
  | table (operand : right.bare = .subquery query) (body : query.core = .select block)
      (listed : table ∈ tablesOf block.sources) (unnamed : table.name = []) :
      Stumbles (.binary op left right) (.emptyObjectName "")

/-- The walk of a predicate comes to a malformed name, at the predicate of a position. -/
def Expr.MeetsAt (root : Expr) (path : List Nat) (cause : Malformed) : Prop :=
  ∃ levels part, root.Reaches path levels part ∧ part.Stumbles cause

/-- The walk of a statement comes to a malformed name, unless an earlier one stops it. A place is a
stage of the walk (0 is the target, 1 the assignments, 2 the tables of the WHERE clause and 3 the
clause itself) and a position in it, so that the walk comes to places in lexicographic order. -/
inductive Statement.MeetsAt : Statement → List Nat → Malformed → Prop where
  | table {asked : Query} (body : asked.core = .select block)
      (listed : table ∈ tablesOf block.sources) (unnamed : table.name = []) :
      MeetsAt (.query asked) [2] (.emptyObjectName "")
  | condition {asked : Query} (body : asked.core = .select block)
      (clause : block.selection = some condition) (inside : condition.MeetsAt path cause) :
      MeetsAt (.query asked) (3 :: path) cause
  | insertTarget (target : insertion.target = .table []) :
      MeetsAt (.insert insertion) [0] (.emptyObjectName "")
  | updateTarget (target : change.table? = some []) : MeetsAt (.update change) [0] (.emptyObjectName "")
  /-- A parameter that is stored into a column without a name. -/
  | assignment (target : change.table? = some name) (listed : assignment ∈ change.assignments)
      (column : assignment.target = .column []) (ordinal : assignment.value.IsOrdinal) :
      MeetsAt (.update change) [1] (.emptyObjectName "")
  /-- The joins of the target and the FROM clause are read only for the sake of a WHERE clause. -/
  | updateTable (target : change.table? = some name) (clause : change.selection = some condition)
      (listed : table ∈ tablesOf (change.target :: change.sources.getD []))
      (unnamed : table.name = []) : MeetsAt (.update change) [2] (.emptyObjectName "")
  | updateCondition (target : change.table? = some name) (clause : change.selection = some condition)
      (inside : condition.MeetsAt path cause) : MeetsAt (.update change) (3 :: path) cause
  /-- Of a DELETE only the first item is read, and without its joins. -/
  | deleteTable (first : deletion.sources = source :: rest) (listed : table ∈ source.factor.tables)
      (unnamed : table.name = []) : MeetsAt (.delete deletion) [2] (.emptyObjectName "")
  | deleteCondition (clause : deletion.selection = some condition)
      (inside : condition.MeetsAt path cause) : MeetsAt (.delete deletion) (3 :: path) cause

theorem Step.mem_faults_iff (steps : List Step) (cause : Malformed) :
    cause ∈ steps.filterMap Step.fault? ↔ .fail cause ∈ steps := by
  rw [List.mem_filterMap]
  constructor
  · rintro ⟨step, member, faulty⟩
    cases step with
    | fail actual =>
      obtain rfl := Option.some.inj faulty
      exact member
    | _ => cases faulty
  · intro member
    exact ⟨_, member, rfl⟩

theorem fail_mem_nameSteps_iff {name : Name} {cause : Malformed} :
    .fail cause ∈ nameSteps name ↔ cause = .emptyObjectName "" ∧ name = [] := by
  unfold nameSteps
  split
  case isTrue unnamed => simp [unnamed]
  case isFalse named => simp [named]

theorem fail_mem_resolveSteps_iff {parts : Name} {next : Reference → List Step} {cause : Malformed}
    (further : ∀ reference, .fail cause ∉ next reference) :
    .fail cause ∈ resolveSteps parts next ↔ cause = .emptyColumnRef ∧ parts = [] := by
  match parts with
  | [] => simp [resolveSteps, Reference.of?]
  | [column] => simp [resolveSteps, Reference.of?, further]
  | qualifier :: column :: more =>
    have short : .fail cause ∉
        (if 2 < (qualifier :: column :: more).length then [Step.report .columnReference] else []) := by
      split <;> simp
    rw [resolveSteps, List.mem_append, or_iff_right short]
    simp [Reference.of?, further]

theorem fail_mem_comparisonSteps_iff {left right : Operand} {cause : Malformed} :
    .fail cause ∈ comparisonSteps left right ↔ cause = .emptyColumnRef ∧
      (left = .column [] ∨ ∃ accessor, left = .json [] accessor) ∧ ∃ param, right = .param param := by
  cases right with
  | param ordinal =>
    cases left with
    | column parts =>
      rw [comparisonSteps, fail_mem_resolveSteps_iff (by simp)]
      simp
    | json parts accessor =>
      rw [comparisonSteps, fail_mem_resolveSteps_iff (by simp)]
      simp
    | _ => simp [comparisonSteps]
  | _ => cases left <;> simp [comparisonSteps]

theorem fail_mem_listSteps_iff {needle : Operand} {items : List Expr} {cause : Malformed} :
    .fail cause ∈ listSteps needle items ↔ cause = .emptyColumnRef ∧ needle = .column [] := by
  cases needle with
  | column parts =>
    have items (reference : Reference) :
        .fail cause ∉ items.flatMap fun item => itemSteps reference (.of item) := by
      intro member
      obtain ⟨item, -, inside⟩ := List.mem_flatMap.mp member
      cases form : Operand.of item <;> simp [form, itemSteps] at inside
    rw [listSteps, fail_mem_resolveSteps_iff items]
    simp
  | _ => simp [listSteps]

/-- The failing steps of a walk, in their order, are the names that are met at certain places. More than
one may be at a place, but then for the same reason. -/
def Step.FailAt (steps : List Step) (met : List Nat → Malformed → Prop) : Prop :=
  ∃ places : List (List Nat × Malformed),
    places.map Prod.snd = steps.filterMap Step.fault? ∧
    (∀ place cause, (place, cause) ∈ places ↔ met place cause) ∧
    places.Pairwise fun former latter => former = latter ∨ former.1 < latter.1

namespace Step.FailAt

variable {steps others : List Step} {met reached : List Nat → Malformed → Prop}

theorem congr (marked : FailAt steps met)
    (same : ∀ place cause, reached place cause ↔ met place cause) : FailAt steps reached := by
  obtain ⟨places, causes, listed, ordered⟩ := marked
  refine ⟨places, causes, fun place cause => ?_, ordered⟩
  rw [listed, same]

theorem nil (sound : ∀ cause, .fail cause ∉ steps) (none : ∀ place cause, ¬ met place cause) :
    FailAt steps met := by
  refine ⟨[], ?_, fun place cause => by simp [none], .nil⟩
  refine (List.eq_nil_iff_forall_not_mem.mpr fun cause faulty => ?_).symm
  exact sound cause ((mem_faults_iff steps cause).mp faulty)

/-- Steps that fail for one reason only may be at one place. -/
theorem here (only : ∀ actual, .fail actual ∈ steps → actual = cause) :
    FailAt steps fun place actual => place = [] ∧ .fail actual ∈ steps := by
  refine ⟨(steps.filterMap fault?).map ([], ·), ?_, fun place actual => ?_, ?_⟩
  · simp [Function.comp_def]
  · simp only [← mem_faults_iff, List.mem_map]
    constructor
    · rintro ⟨_, member, same⟩
      obtain ⟨rfl, rfl⟩ := Prod.mk.inj same
      exact ⟨rfl, member⟩
    · rintro ⟨rfl, member⟩
      exact ⟨actual, member, rfl⟩
  · refine List.pairwise_map.mpr
      (List.Pairwise.imp_of_mem ?_ (List.pairwise_of_forall fun _ _ => trivial))
    intro former latter first second _
    rw [only former ((mem_faults_iff steps former).mp first),
      only latter ((mem_faults_iff steps latter).mp second)]
    exact .inl rfl

theorem within (start : List Nat) (marked : FailAt steps met) :
    FailAt steps fun place cause => ∃ rest, place = start ++ rest ∧ met rest cause := by
  obtain ⟨places, causes, listed, ordered⟩ := marked
  refine ⟨places.map fun entry => (start ++ entry.1, entry.2), ?_, fun place cause => ?_, ?_⟩
  · rw [← causes, List.map_map]
    rfl
  · simp only [← listed, List.mem_map]
    constructor
    · rintro ⟨⟨rest, actual⟩, member, same⟩
      obtain ⟨rfl, rfl⟩ := Prod.mk.inj same
      exact ⟨rest, rfl, member⟩
    · rintro ⟨rest, rfl, member⟩
      exact ⟨(rest, cause), member, rfl⟩
  · refine List.pairwise_map.mpr (ordered.imp ?_)
    rintro former latter (rfl | earlier)
    · exact .inl rfl
    · exact .inr (List.append_left_lt earlier)

theorem append (first : FailAt steps met) (second : FailAt others reached)
    (apart : ∀ place cause later reason, met place cause → reached later reason → place < later) :
    FailAt (steps ++ others) fun place cause => met place cause ∨ reached place cause := by
  obtain ⟨places, causes, listed, ordered⟩ := first
  obtain ⟨laterPlaces, laterCauses, laterListed, laterOrdered⟩ := second
  refine ⟨places ++ laterPlaces, ?_, fun place cause => ?_, List.pairwise_append.mpr
    ⟨ordered, laterOrdered, fun former isFormer latter isLatter => .inr ?_⟩⟩
  · rw [List.map_append, List.filterMap_append, causes, laterCauses]
  · rw [List.mem_append, listed, laterListed]
  · exact apart _ _ _ _ ((listed former.1 former.2).mp isFormer)
      ((laterListed latter.1 latter.2).mp isLatter)

theorem under (declarations : List (String × Relation)) (marked : FailAt steps met) :
    FailAt (steps.map (Step.under declarations)) met := by
  obtain ⟨places, causes, listed, ordered⟩ := marked
  refine ⟨places, ?_, listed, ordered⟩
  rw [causes, List.filterMap_map]
  exact congrArg (List.filterMap · steps) (funext fun step => (fault?_under declarations step).symm)

/-- The tables of a clause come before the clause. -/
theorem clause (start : List Nat) (tables : List Table) (inside : FailAt steps met)
    (later : ∀ place cause, met place cause → start < place) :
    FailAt (clauseSteps tables steps) fun place cause =>
      (place = start ∧ cause = .emptyObjectName "" ∧ ∃ table ∈ tables, table.name = []) ∨
        met place cause := by
  have names (cause : Malformed) :
      .fail cause ∈ tables.flatMap (fun table => nameSteps table.name) ↔
        cause = .emptyObjectName "" ∧ ∃ table ∈ tables, table.name = [] := by
    rw [List.mem_flatMap]
    simp only [fail_mem_nameSteps_iff]
    constructor
    · rintro ⟨table, member, rfl, unnamed⟩
      exact ⟨rfl, table, member, unnamed⟩
    · rintro ⟨rfl, table, member, unnamed⟩
      exact ⟨table, member, rfl, unnamed⟩
  have outer := (here fun actual member => ((names actual).mp member).1).within start
  refine (outer.append (inside.under _) ?_).congr fun place cause => or_congr_left ?_
  · rintro _ cause place reason ⟨_, rfl, rfl, -⟩ reached
    exact (List.append_nil start).symm ▸ later place reason reached
  · rw [← names]
    constructor
    · rintro ⟨rfl, member⟩
      exact ⟨[], (List.append_nil place).symm, rfl, member⟩
    · rintro ⟨_, rfl, rfl, member⟩
      exact ⟨List.append_nil start, member⟩

/-- A run of such steps fails with the name that is met at the first place. -/
theorem error_iff (marked : FailAt steps met) (scope : Scope) (cause : Malformed) :
    (runAll scope steps).outcome = .error cause ↔
      ∃ place, met place cause ∧ ∀ other reason, met other reason → ¬ other < place := by
  obtain ⟨places, causes, listed, ordered⟩ := marked
  rw [runAll_error_iff, ← causes, List.head?_map]
  constructor
  · intro found
    cases places with
    | nil => cases found
    | cons first rest =>
      obtain rfl := Option.some.inj found
      refine ⟨first.1, (listed _ _).mp List.mem_cons_self, fun other reason other_met => ?_⟩
      cases (listed other reason).mpr other_met with
      | head => exact List.lt_irrefl other
      | tail _ member =>
        obtain rfl | earlier := (List.pairwise_cons.mp ordered).1 _ member
        · exact List.lt_irrefl other
        · exact List.lt_asymm earlier
  · rintro ⟨place, isMet, least⟩
    have member := (listed place cause).mpr isMet
    cases places with
    | nil => cases member
    | cons first rest =>
      cases member with
      | head => rfl
      | tail _ member =>
        obtain rfl | earlier := (List.pairwise_cons.mp ordered).1 _ member
        · rfl
        · exact absurd earlier (least _ _ ((listed _ _).mp List.mem_cons_self))

theorem ok_iff (marked : FailAt steps met) (scope : Scope) :
    (∃ found, (runAll scope steps).outcome = .ok found) ↔ ∀ place cause, ¬ met place cause := by
  obtain ⟨places, causes, listed, -⟩ := marked
  rw [runAll_ok_iff, ← causes, List.map_eq_nil_iff, List.eq_nil_iff_forall_not_mem]
  constructor
  · intro none place cause isMet
    exact none _ ((listed place cause).mpr isMet)
  · intro none entry member
    exact none _ _ ((listed entry.1 entry.2).mp member)

end Step.FailAt

namespace Expr

private theorem meetsAt_nested_iff {enclosed : Expr} :
    (Expr.nested enclosed).MeetsAt place cause ↔
      ∃ rest, place = [0] ++ rest ∧ enclosed.MeetsAt rest cause := by
  constructor
  · rintro ⟨levels, part, reached, stumbles⟩
    cases reached with
    | here => cases stumbles
    | nested inside => exact ⟨_, rfl, levels, part, inside, stumbles⟩
  · rintro ⟨rest, rfl, levels, part, reached, stumbles⟩
    exact ⟨levels, part, .nested reached, stumbles⟩

private theorem meetsAt_negation_iff {operand : Expr} :
    (Expr.negation operand).MeetsAt place cause ↔
      ∃ rest, place = [0] ++ rest ∧ operand.MeetsAt rest cause := by
  constructor
  · rintro ⟨levels, part, reached, stumbles⟩
    cases reached with
    | here => cases stumbles
    | negation inside => exact ⟨_, rfl, levels, part, inside, stumbles⟩
  · rintro ⟨rest, rfl, levels, part, reached, stumbles⟩
    exact ⟨levels, part, .negation reached, stumbles⟩

private theorem meetsAt_logical_iff {left right : Expr} :
    (Expr.logical connective left right).MeetsAt place cause ↔
      (∃ rest, place = [0] ++ rest ∧ left.MeetsAt rest cause) ∨
        ∃ rest, place = [1] ++ rest ∧ right.MeetsAt rest cause := by
  constructor
  · rintro ⟨levels, part, reached, stumbles⟩
    cases reached with
    | here => cases stumbles
    | left inside => exact .inl ⟨_, rfl, levels, part, inside, stumbles⟩
    | right inside => exact .inr ⟨_, rfl, levels, part, inside, stumbles⟩
  · rintro (⟨rest, rfl, levels, part, reached, stumbles⟩ | ⟨rest, rfl, levels, part, reached, stumbles⟩)
    · exact ⟨levels, part, .left reached, stumbles⟩
    · exact ⟨levels, part, .right reached, stumbles⟩

/-- A predicate that the walk does not go into meets what it stumbles at itself. -/
private theorem meetsAt_of_halts {root : Expr} (halts : Expr.Halts root) :
    root.MeetsAt place cause ↔ place = [] ∧ root.Stumbles cause := by
  constructor
  · rintro ⟨levels, part, reached, stumbles⟩
    obtain ⟨rfl, -, rfl⟩ := halts _ _ _ reached
    exact ⟨rfl, stumbles⟩
  · rintro ⟨rfl, stumbles⟩
    exact ⟨[], root, .here, stumbles⟩

private theorem stumbles_comparison_iff {left right : Expr}
    (apart : ∀ query, right.bare ≠ .subquery query) :
    (Expr.binary op left right).Stumbles cause ↔ cause = .emptyColumnRef ∧
      (Operand.of left = .column [] ∨ ∃ accessor, Operand.of left = .json [] accessor) ∧
      ∃ param, Operand.of right = .param param := by
  rw [← right.isOrdinal_iff]
  constructor
  · intro stumbles
    cases stumbles with
    | column reference ordinal =>
      exact ⟨rfl, .inl (Operand.of_eq_column_iff.mpr reference), ordinal⟩
    | json chain ordinal => exact ⟨rfl, .inr ⟨_, Operand.of_jsonChain chain⟩, ordinal⟩
    | table operand => exact absurd operand (apart _)
  · rintro ⟨rfl, column | ⟨accessor, access⟩, ordinal⟩
    · exact .column (Operand.of_eq_column_iff.mp column) ordinal
    · obtain ⟨keys, asText, chain, -⟩ := Operand.of_eq_json_iff.mp access
      exact .json chain ordinal

private theorem stumbles_subquery_iff {right : Expr} (operand : right.bare = .subquery query) :
    (Expr.binary op left right).Stumbles cause ↔ cause = .emptyObjectName "" ∧
      ∃ block, query.core = .select block ∧ ∃ table ∈ tablesOf block.sources, table.name = [] := by
  constructor
  · intro stumbles
    cases stumbles with
    | column reference ordinal =>
      obtain ⟨text, param, placeholder, -⟩ := ordinal
      cases operand.symm.trans placeholder
    | json chain ordinal =>
      obtain ⟨text, param, placeholder, -⟩ := ordinal
      cases operand.symm.trans placeholder
    | table actual body listed unnamed =>
      obtain rfl := Expr.subquery.inj (operand.symm.trans actual)
      exact ⟨rfl, _, body, _, listed, unnamed⟩
  · rintro ⟨rfl, block, body, table, listed, unnamed⟩
    exact .table operand body listed unnamed

private theorem stumbles_inList_iff {needle : Expr} :
    (Expr.inList negated needle items).Stumbles cause ↔
      cause = .emptyColumnRef ∧ Operand.of needle = .column [] := by
  rw [Operand.of_eq_column_iff]
  constructor
  · intro stumbles
    cases stumbles with
    | needle reference => exact ⟨rfl, reference⟩
  · rintro ⟨rfl, reference⟩
    exact .needle reference

private theorem halts_of_comparison {right : Expr} (apart : ∀ query, right.bare ≠ .subquery query) :
    Expr.Halts (.binary op left right) := by
  intro path levels part reached
  cases reached with
  | here => exact ⟨rfl, rfl, rfl⟩
  | subquery next inside => exact absurd next.operand (apart _)

private theorem failAt_of_halts {root : Expr} (halts : Expr.Halts root)
    (same : ∀ actual, .fail actual ∈ root.steps ↔ root.Stumbles actual)
    (only : ∀ actual, root.Stumbles actual → actual = cause) :
    Step.FailAt root.steps root.MeetsAt := by
  refine (Step.FailAt.here fun actual member => only actual ((same actual).mp member)).congr ?_
  intro place actual
  rw [meetsAt_of_halts halts, same]

theorem failAt_selectionSteps (selection : Option Expr)
    (inside : ∀ condition, selection = some condition →
      Step.FailAt condition.steps condition.MeetsAt) :
    Step.FailAt (selectionSteps selection) fun place cause =>
      ∃ condition, selection = some condition ∧ condition.MeetsAt place cause := by
  cases selection with
  | none => exact .nil (by simp [selectionSteps]) (by simp)
  | some condition => exact (inside condition rfl).congr (by simp)

private theorem meetsAt_subquery_iff {right : Expr} (operand : right.bare = .subquery query) :
    (Expr.binary op left right).MeetsAt place cause ↔ ∃ block, query.core = .select block ∧
      ((place = [] ∧ cause = .emptyObjectName "" ∧
          ∃ table ∈ tablesOf block.sources, table.name = []) ∨
        ∃ rest, place = (bodySteps right query ++ [block.conditionIndex]) ++ rest ∧
          ∃ condition, block.selection = some condition ∧ condition.MeetsAt rest cause) := by
  simp only [List.append_assoc, List.cons_append, List.nil_append]
  constructor
  · rintro ⟨levels, part, reached, stumbles⟩
    cases reached with
    | here =>
      obtain ⟨rfl, block, form, unnamed⟩ := (stumbles_subquery_iff operand).mp stumbles
      exact ⟨block, form, .inl ⟨rfl, rfl, unnamed⟩⟩
    | subquery next inside =>
      obtain rfl := Expr.subquery.inj (operand.symm.trans next.operand)
      exact ⟨_, next.body, .inr ⟨_, rfl, _, next.clause, _, part, inside, stumbles⟩⟩
  · rintro ⟨block, form, ⟨rfl, rfl, unnamed⟩ | ⟨rest, rfl, condition, clause, deeper⟩⟩
    · exact ⟨[], _, .here, (stumbles_subquery_iff operand).mpr ⟨rfl, block, form, unnamed⟩⟩
    · obtain ⟨levels, part, reached, stumbles⟩ := deeper
      exact ⟨_, part, .subquery ⟨operand, form, clause⟩ reached, stumbles⟩

private theorem failAt_subquery {right : Expr} (operand : right.bare = .subquery query)
    (inside : ∀ query block condition, Continues right query block condition →
      Step.FailAt condition.steps condition.MeetsAt) :
    Step.FailAt (Expr.binary op left right).steps (Expr.binary op left right).MeetsAt := by
  rw [steps_of_subquery operand]
  cases form : query.core with
  | query inner => exact absurd form (query.core_ne_query inner)
  | select block =>
    have selection := failAt_selectionSteps block.selection fun condition clause =>
      inside query block condition ⟨operand, form, clause⟩
    rw [Body.steps, Select.steps_eq]
    refine ((selection.within (bodySteps right query ++ [block.conditionIndex])).clause []
      (tablesOf block.sources) ?_).congr fun place cause => ?_
    · rintro _ cause ⟨rest, rfl, -⟩
      exact List.nil_lt_cons _ _
    · rw [meetsAt_subquery_iff operand, form]
      simp
  | values | phrase =>
    refine .nil (by simp [Body.steps]) fun place cause => ?_
    rw [meetsAt_subquery_iff operand, form]
    simp

/-- The walk of a predicate meets malformed names in the order of their positions. -/
theorem failAt_steps (root : Expr) : Step.FailAt root.steps root.MeetsAt := by
  induction root using Expr.walk_induction with
  | nested enclosed ih =>
    rw [Expr.steps]
    exact (ih.within [0]).congr fun place cause => meetsAt_nested_iff
  | negation operand ih =>
    rw [Expr.steps]
    exact (ih.within [0]).congr fun place cause => meetsAt_negation_iff
  | logical connective left right ihLeft ihRight =>
    rw [Expr.steps]
    refine ((ihLeft.within [0]).append (ihRight.within [1]) ?_).congr fun _ _ => meetsAt_logical_iff
    rintro _ _ _ _ ⟨rest, rfl, -⟩ ⟨other, rfl, -⟩
    exact List.cons_lt_cons_iff.mpr (.inl Nat.zero_lt_one)
  | binary op left right ih =>
    by_cases operand : ∃ query, right.bare = .subquery query
    · obtain ⟨query, operand⟩ := operand
      exact failAt_subquery operand ih
    · have apart := not_exists.mp operand
      refine failAt_of_halts (halts_of_comparison apart) (fun actual => ?_)
        fun actual stumbles => ((stumbles_comparison_iff apart).mp stumbles).1
      rw [steps_of_comparison apart, fail_mem_comparisonSteps_iff, stumbles_comparison_iff apart]
  | inList negated needle items =>
    refine failAt_of_halts ?_ (fun actual => ?_)
      fun actual stumbles => (stumbles_inList_iff.mp stumbles).1
    · rintro _ _ _ ⟨⟩
      exact ⟨rfl, rfl, rfl⟩
    · rw [Expr.steps, fail_mem_listSteps_iff, stumbles_inList_iff]
  | isNull | column | literal | subquery | phrase =>
    refine .nil (by simp [Expr.steps]) ?_
    rintro _ _ ⟨_, _, ⟨⟩, ⟨⟩⟩

end Expr

/-- The tables of a WHERE clause are met at stage 2 and the clause at stage 3. -/
private theorem failAt_clause (tables : List Table) (selection : Option Expr) :
    Step.FailAt (clauseSteps tables (selectionSteps selection)) fun place cause =>
      (place = [2] ∧ cause = .emptyObjectName "" ∧ ∃ table ∈ tables, table.name = []) ∨
        ∃ rest, place = [3] ++ rest ∧
          ∃ condition, selection = some condition ∧ condition.MeetsAt rest cause := by
  refine ((Expr.failAt_selectionSteps selection fun condition _ => condition.failAt_steps).within
    [3]).clause [2] tables ?_
  rintro _ cause ⟨rest, rfl, -⟩
  exact List.cons_lt_cons_iff.mpr (.inl (Nat.lt_succ_self 2))

theorem Query.failAt_steps (query : Query) :
    Step.FailAt query.steps (Statement.query query).MeetsAt := by
  rw [query.steps_core]
  cases form : query.core with
  | query inner => exact absurd form (query.core_ne_query inner)
  | select block =>
    rw [Body.steps, Select.steps_eq]
    refine (failAt_clause (tablesOf block.sources) block.selection).congr fun place cause => ?_
    constructor
    · intro met
      cases met with
      | table body listed unnamed =>
        obtain rfl := Body.select.inj (form.symm.trans body)
        exact .inl ⟨rfl, rfl, _, listed, unnamed⟩
      | condition body clause inside =>
        obtain rfl := Body.select.inj (form.symm.trans body)
        exact .inr ⟨_, rfl, _, clause, inside⟩
    · rintro (⟨rfl, rfl, table, listed, unnamed⟩ | ⟨rest, rfl, condition, clause, inside⟩)
      · exact .table form listed unnamed
      · exact .condition form clause inside
  | values | phrase =>
    refine .nil (by simp [Body.steps]) fun place cause met => ?_
    cases met with
    | table body => cases form.symm.trans body
    | condition body => cases form.symm.trans body

theorem Delete.failAt_steps (deletion : Delete) :
    Step.FailAt deletion.steps (Statement.delete deletion).MeetsAt := by
  rw [Delete.steps]
  refine (failAt_clause deletion.scopeTables deletion.selection).congr fun place cause => ?_
  constructor
  · intro met
    cases met with
    | deleteTable first listed unnamed =>
      refine .inl ⟨rfl, rfl, _, ?_, unnamed⟩
      rw [Delete.scopeTables, first]
      exact listed
    | deleteCondition clause inside => exact .inr ⟨_, rfl, _, clause, inside⟩
  · rintro (⟨rfl, rfl, table, listed, unnamed⟩ | ⟨rest, rfl, condition, clause, inside⟩)
    · unfold Delete.scopeTables at listed
      split at listed
      case h_1 none => cases listed
      case h_2 source rest first => exact .deleteTable first listed unnamed
    · exact .deleteCondition clause inside

namespace Insert

theorem failAt_steps (insertion : Insert) :
    Step.FailAt insertion.steps (Statement.insert insertion).MeetsAt := by
  have fails (cause : Malformed) : .fail cause ∈ insertion.steps ↔
      cause = .emptyObjectName "" ∧ insertion.target = .table [] := by
    fun_cases Insert.steps insertion with
    | case1 name target =>
      have stored : .fail cause ∉
          sourceSteps ((Relation.ofName? name).getD .notFound) insertion.columns insertion.source := by
        intro member
        rcases mem_sourceSteps member with ⟨kind, same⟩ | ⟨param, column, same⟩ <;> cases same
      rw [List.mem_append, fail_mem_nameSteps_iff, target]
      simp [stored]
    | case2 parts target => simp [target]
  refine ((Step.FailAt.here fun actual member => ((fails actual).mp member).1).within [0]).congr ?_
  intro place cause
  simp only [fails]
  constructor
  · intro met
    cases met with
    | insertTarget target => exact ⟨[], rfl, rfl, rfl, target⟩
  · rintro ⟨_, rfl, rfl, rfl, target⟩
    exact .insertTarget target

end Insert

namespace Update

private theorem fail_mem_assignmentSteps_iff {relation : Relation} {assignment : Assignment} :
    .fail cause ∈ assignmentSteps relation assignment ↔ cause = .emptyObjectName "" ∧
      assignment.target = .column [] ∧ assignment.value.IsOrdinal := by
  rw [Expr.isOrdinal_iff]
  fun_cases assignmentSteps relation assignment with
  | case1 names target => simp [target]
  | case2 name param ordinal target column last =>
    have named : name ≠ [] := by
      rintro rfl
      cases last
    simp [target, named]
  | case3 name param ordinal target last =>
    simp [target, ordinal, List.getLast?_eq_none_iff.mp last]
  | case4 name text placeholder target => simp [placeholder]
  | case5 name target noParam noPlaceholder =>
    simp [show ∀ param, Operand.of assignment.value ≠ .param param from noParam]

private theorem failAt_conditionSteps (change : Update) :
    Step.FailAt change.conditionSteps fun place cause =>
      ∃ condition, change.selection = some condition ∧
        ((place = [2] ∧ cause = .emptyObjectName "" ∧ ∃ table ∈ change.scopeTables, table.name = []) ∨
          ∃ rest, place = [3] ++ rest ∧ condition.MeetsAt rest cause) := by
  unfold conditionSteps
  split
  case h_1 none => exact .nil (by simp) (by simp [none])
  case h_2 condition clause =>
    exact (failAt_clause change.scopeTables (some condition)).congr (by simp [clause])

theorem failAt_steps (change : Update) :
    Step.FailAt change.steps (Statement.update change).MeetsAt := by
  fun_cases Update.steps change with
  | case1 none =>
    refine .nil (by simp) fun place cause met => ?_
    cases met <;> simp_all
  | case2 name target =>
    have assigned (cause : Malformed) : .fail cause ∈ change.assignments.flatMap
        (assignmentSteps ((Relation.ofName? name).getD .notFound)) ↔ cause = .emptyObjectName "" ∧
          ∃ assignment ∈ change.assignments,
            assignment.target = .column [] ∧ assignment.value.IsOrdinal := by
      simp only [List.mem_flatMap, fail_mem_assignmentSteps_iff]
      constructor
      · rintro ⟨assignment, listed, rfl, stored⟩
        exact ⟨rfl, assignment, listed, stored⟩
      · rintro ⟨rfl, assignment, listed, stored⟩
        exact ⟨assignment, listed, rfl, stored⟩
    have names := (Step.FailAt.here fun actual (member : .fail actual ∈ nameSteps name) =>
      (fail_mem_nameSteps_iff.mp member).1).within [0]
    have columns := (Step.FailAt.here fun actual member => ((assigned actual).mp member).1).within [1]
    refine ((names.append columns ?_).append (failAt_conditionSteps change) ?_).congr
      fun place cause => ?_
    · rintro _ _ _ _ ⟨_, rfl, -⟩ ⟨_, rfl, -⟩
      exact List.cons_lt_cons_iff.mpr (.inl Nat.zero_lt_one)
    · rintro _ _ _ _ (⟨_, rfl, -⟩ | ⟨_, rfl, -⟩) ⟨_, -, ⟨rfl, -⟩ | ⟨_, rfl, -⟩⟩
      all_goals exact List.cons_lt_cons_iff.mpr (.inl (by decide))
    · simp only [assigned, fail_mem_nameSteps_iff]
      constructor
      · intro met
        cases met with
        | updateTarget unnamed =>
          exact .inl (.inl ⟨[], rfl, rfl, rfl, Option.some.inj (target.symm.trans unnamed)⟩)
        | assignment _ listed column ordinal =>
          exact .inl (.inr ⟨[], rfl, rfl, rfl, _, listed, column, ordinal⟩)
        | updateTable _ clause listed unnamed =>
          exact .inr ⟨_, clause, .inl ⟨rfl, rfl, _, listed, unnamed⟩⟩
        | updateCondition _ clause inside => exact .inr ⟨_, clause, .inr ⟨_, rfl, inside⟩⟩
      · rintro ((⟨_, rfl, rfl, rfl, rfl⟩ | ⟨_, rfl, rfl, rfl, assignment, listed, column, ordinal⟩) |
          ⟨condition, clause, ⟨rfl, rfl, table, listed, unnamed⟩ | ⟨rest, rfl, inside⟩⟩)
        · exact .updateTarget target
        · exact .assignment target listed column ordinal
        · exact .updateTable target clause listed unnamed
        · exact .updateCondition target clause inside

end Update

/-- The walk of a statement meets malformed names in the order of their places. -/
theorem Statement.failAt_steps (statement : Statement) :
    Step.FailAt statement.steps statement.MeetsAt := by
  cases statement with
  | query asked => exact asked.failAt_steps
  | insert insertion => exact insertion.failAt_steps
  | update change => exact change.failAt_steps
  | delete deletion => exact deletion.failAt_steps
  | other parts => exact .nil (by simp [Statement.steps]) fun place cause met => by cases met

/-- An analysis fails exactly if its walk comes to a malformed name, and its error is that of the
first one; otherwise it has a result. -/
theorem Statement.analyze_error_iff (statement : Statement) :
    (∀ cause, statement.analyze.outcome = .error cause ↔
      ∃ place, statement.MeetsAt place cause ∧
        ∀ other reason, statement.MeetsAt other reason → ¬ other < place) ∧
    ((∃ analysis, statement.analyze.outcome = .ok analysis) ↔
      ∀ place cause, ¬ statement.MeetsAt place cause) := by
  have alike := statement.bindings_alike
  simp only [← statement.failAt_steps.error_iff .empty, ← statement.failAt_steps.ok_iff .empty,
    ← alike.outcome, statement.analyze_outcome]
  cases statement.bindings.outcome with
  | ok found => simp [Except.map]
  | error cause => simp [Except.map]

end SqlBinding
