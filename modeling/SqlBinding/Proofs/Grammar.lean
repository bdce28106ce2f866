import SqlBinding.Proofs.Run

/-! The predicates that are understood in full. They form a language with a grammar of its own, and a
walk that succeeds reports nothing exactly if its predicate belongs to that language.
-/

namespace SqlBinding

/-- A column reference of which every part counts. -/
def Short (parts : Name) : Prop := parts.length = 1 ∨ parts.length = 2

theorem Short.exists_reference (short : Short parts) :
    ∃ reference, Reference.of? parts = some reference := by
  match parts with
  | [] => simp [Short] at short
  | [_] => exact ⟨_, rfl⟩
  | _ :: _ :: _ => exact ⟨_, rfl⟩

/-- The predicates in which everything is understood. -/
inductive Expr.Understood : Expr → Prop where
  | nested (inside : Understood enclosed) : Understood (.nested enclosed)
  | logical (first : Understood left) (second : Understood right) :
      Understood (.logical connective left right)
  | negation (inside : Understood operand) : Understood (.negation operand)
  | nullTest : Understood (.isNull negated operand)
  | column (reference : left.bare = .column parts) (short : Short parts) (ordinal : right.IsOrdinal) :
      Understood (.binary op left right)
  | json (chain : JsonChain left parts keys asText) (short : Short parts)
      (ordinal : right.IsOrdinal) : Understood (.binary op left right)
  /-- Next to a column reference on the right, whatever stands on the left. -/
  | reference (column : right.bare = .column parts) : Understood (.binary op left right)
  /-- Next to a subquery on the right, whatever stands on the left. -/
  | subquery (operand : right.bare = .subquery query) (body : query.core = .select block)
      (clause : ∀ condition, block.selection = some condition → Understood condition) :
      Understood (.binary op left right)
  | inList (reference : needle.bare = .column parts) (short : Short parts)
      (numbered : ∀ item ∈ items, ∀ text, item.bare = .literal (.placeholder text) →
        item.IsOrdinal) : Understood (.inList negated needle items)

namespace Step

def Unreported (steps : List Step) : Prop := ∀ step ∈ steps, step.kind? = none

def Sound (steps : List Step) : Prop := ∀ step ∈ steps, step.fault? = none

theorem unreported_append_iff (steps others : List Step) :
    Unreported (steps ++ others) ↔ Unreported steps ∧ Unreported others := List.forall_mem_append

theorem sound_append_iff (steps others : List Step) :
    Sound (steps ++ others) ↔ Sound steps ∧ Sound others := List.forall_mem_append

theorem not_unreported (kind : Warning.Kind) (rest : List Step) :
    ¬ Unreported (.report kind :: rest) := by
  intro unreported
  cases unreported _ List.mem_cons_self

theorem not_sound (cause : Malformed) (rest : List Step) : ¬ Sound (.fail cause :: rest) := by
  intro sound
  cases sound _ List.mem_cons_self

/-- A run that succeeds comes to no malformed name. -/
theorem sound_of_ok {scope : Scope} {steps : List Step}
    (walked : (runAll scope steps).outcome = .ok found) : Sound steps :=
  List.filterMap_eq_nil_iff.mp ((runAll_ok_iff scope steps).mp ⟨found, walked⟩)

/-- Inside a FROM clause nothing else is reported, and its tables are not reported. -/
theorem unreported_clause_iff {tables : List Table} {steps : List Step} :
    Unreported (clauseSteps tables steps) ↔ Unreported steps := by
  have names : Unreported (tables.flatMap fun table => nameSteps table.name) := by
    intro step member
    obtain ⟨table, -, inside⟩ := List.mem_flatMap.mp member
    unfold nameSteps at inside
    split at inside
    · obtain rfl := List.mem_singleton.mp inside
      rfl
    · cases inside
  rw [clauseSteps, unreported_append_iff, and_iff_right names]
  simp [Unreported]

theorem sound_of_clause {tables : List Table} {steps : List Step}
    (sound : Sound (clauseSteps tables steps)) : Sound steps := by
  obtain ⟨-, inside⟩ := (sound_append_iff _ _).mp sound
  simpa [Sound] using inside

/-- A reference is looked up without a report if it is short. -/
theorem unreported_resolve_iff {parts : Name} {next : Reference → List Step}
    (sound : Sound (resolveSteps parts next)) :
    Unreported (resolveSteps parts next) ↔
      Short parts ∧
        ∀ reference, Reference.of? parts = some reference → Unreported (next reference) := by
  match parts with
  | [] => exact absurd sound (not_sound _ _)
  | [column] => simp [resolveSteps, Reference.of?, Short]
  | [qualifier, column] => simp [resolveSteps, Reference.of?, Short]
  | qualifier :: column :: extra :: more =>
    have long : ¬ Short (qualifier :: column :: extra :: more) := by simp [Short]
    exact iff_of_false (by simpa [resolveSteps] using not_unreported _ _) fun given => long given.1

private theorem unreported_compare (param : Param) (reference : Reference)
    (accessor : Option JsonAccessor) : Unreported [.compare [] param reference accessor] := by
  simp [Unreported, kind?]

theorem unreported_comparison_iff {left right : Operand}
    (sound : Sound (comparisonSteps left right)) :
    Unreported (comparisonSteps left right) ↔
      (∃ parts param, (left = .column parts ∨ ∃ accessor, left = .json parts accessor) ∧
        right = .param param ∧ Short parts) ∨
      ∃ parts, right = .column parts := by
  cases right with
  | param ordinal =>
    cases left with
    | column parts =>
      rw [comparisonSteps] at sound ⊢
      rw [unreported_resolve_iff sound]
      simp [unreported_compare]
    | json parts accessor =>
      rw [comparisonSteps] at sound ⊢
      rw [unreported_resolve_iff sound]
      simp [unreported_compare]
    | _ => exact iff_of_false (not_unreported _ _) (by simp)
  | column parts =>
    exact iff_of_true (by cases left <;> simp [comparisonSteps, Unreported]) (.inr ⟨parts, rfl⟩)
  | _ => exact iff_of_false (by cases left <;> exact not_unreported _ _) (by simp)

theorem unreported_items_iff (reference : Reference) (items : List Expr) :
    Unreported (items.flatMap fun item => itemSteps reference (.of item)) ↔
      ∀ item ∈ items, ∀ text, Operand.of item ≠ .placeholder text := by
  simp only [Unreported, List.mem_flatMap, forall_exists_index, and_imp]
  constructor
  · intro clear item member text placeholder
    cases clear (.report .placeholder) item member (by simp [placeholder, itemSteps])
  · intro numbered step item member inside
    cases form : Operand.of item with
    | param ordinal =>
      rw [form, itemSteps] at inside
      obtain rfl := List.mem_singleton.mp inside
      rfl
    | placeholder text => exact absurd form (numbered item member text)
    | _ => simp [form, itemSteps] at inside

end Step

open Step (Sound Unreported)

private theorem unreported_binary_iff {left right : Expr}
    (apart : ∀ query, right.bare ≠ .subquery query) (sound : Sound (Expr.binary op left right).steps) :
    Unreported (Expr.binary op left right).steps ↔ (Expr.binary op left right).Understood := by
  rw [steps_of_comparison apart] at sound ⊢
  rw [Step.unreported_comparison_iff sound]
  constructor
  · intro given
    rcases given with ⟨parts, param, column | ⟨accessor, access⟩, ordinal, short⟩ | ⟨parts, column⟩
    · exact .column (Operand.of_eq_column_iff.mp column) short
        (right.isOrdinal_iff.mpr ⟨param, ordinal⟩)
    · obtain ⟨keys, asText, chain, -⟩ := Operand.of_eq_json_iff.mp access
      exact .json chain short (right.isOrdinal_iff.mpr ⟨param, ordinal⟩)
    · exact .reference (Operand.of_eq_column_iff.mp column)
  · intro understood
    cases understood with
    | column reference short ordinal =>
      obtain ⟨param, operand⟩ := right.isOrdinal_iff.mp ordinal
      exact .inl ⟨_, param, .inl (Operand.of_eq_column_iff.mpr reference), operand, short⟩
    | json chain short ordinal =>
      obtain ⟨param, operand⟩ := right.isOrdinal_iff.mp ordinal
      exact .inl ⟨_, param, .inr ⟨_, Operand.of_jsonChain chain⟩, operand, short⟩
    | reference column => exact .inr ⟨_, Operand.of_eq_column_iff.mpr column⟩
    | subquery operand => exact absurd operand (apart _)

private theorem understood_subquery_iff {right : Expr} (operand : right.bare = .subquery query) :
    (Expr.binary op left right).Understood ↔ ∃ block, query.core = .select block ∧
      ∀ condition, block.selection = some condition → condition.Understood := by
  constructor
  · intro understood
    cases understood with
    | column reference short ordinal =>
      obtain ⟨text, param, placeholder, -⟩ := ordinal
      cases operand.symm.trans placeholder
    | json chain short ordinal =>
      obtain ⟨text, param, placeholder, -⟩ := ordinal
      cases operand.symm.trans placeholder
    | reference column => cases operand.symm.trans column
    | subquery actual body clause =>
      obtain rfl := Expr.subquery.inj (operand.symm.trans actual)
      exact ⟨_, body, clause⟩
  · intro given
    obtain ⟨block, body, clause⟩ := given
    exact .subquery operand body clause

private theorem numbered_iff (item : Expr) :
    (∀ text, Operand.of item ≠ .placeholder text) ↔
      ∀ text, item.bare = .literal (.placeholder text) → item.IsOrdinal := by
  constructor
  · intro apart text bare
    cases numbered : Param.ofText? text with
    | none => exact absurd (Operand.of_eq_placeholder_iff.mpr ⟨bare, numbered⟩) (apart text)
    | some param => exact ⟨text, param, bare, numbered⟩
  · intro ordinal text operand
    obtain ⟨bare, unnumbered⟩ := Operand.of_eq_placeholder_iff.mp operand
    obtain ⟨param, numbered⟩ := item.isOrdinal_iff.mp (ordinal text bare)
    cases operand.symm.trans numbered

private theorem unreported_inList_iff {needle : Expr} {items : List Expr}
    (sound : Sound (Expr.inList negated needle items).steps) :
    Unreported (Expr.inList negated needle items).steps ↔
      (Expr.inList negated needle items).Understood := by
  rw [Expr.steps] at sound ⊢
  cases form : Operand.of needle with
  | column parts =>
    rw [form, listSteps] at sound
    rw [listSteps, Step.unreported_resolve_iff sound]
    simp only [Step.unreported_items_iff, numbered_iff]
    constructor
    · rintro ⟨short, numbered⟩
      obtain ⟨reference, found⟩ := short.exists_reference
      exact .inList (Operand.of_eq_column_iff.mp form) short (numbered reference found)
    · intro understood
      cases understood with
      | inList reference short numbered =>
        obtain rfl := Expr.column.inj ((Operand.of_eq_column_iff.mp form).symm.trans reference)
        exact ⟨short, fun _ _ => numbered⟩
  | _ =>
    refine iff_of_false (Step.not_unreported _ _) fun understood => ?_
    cases understood with
    | inList reference => cases form.symm.trans (Operand.of_eq_column_iff.mpr reference)

/-- Among predicates without a malformed name, those whose steps report nothing are understood. -/
theorem Expr.unreported_steps_iff (root : Expr) (sound : Sound root.steps) :
    Unreported root.steps ↔ root.Understood := by
  induction root using Expr.walk_induction with
  | nested inner ih =>
    rw [Expr.steps] at sound ⊢
    rw [ih sound]
    exact ⟨.nested, fun understood => by cases understood; assumption⟩
  | negation operand ih =>
    rw [Expr.steps] at sound ⊢
    rw [ih sound]
    exact ⟨.negation, fun understood => by cases understood; assumption⟩
  | logical connective left right ihLeft ihRight =>
    rw [Expr.steps] at sound ⊢
    obtain ⟨first, second⟩ := (Step.sound_append_iff _ _).mp sound
    rw [Step.unreported_append_iff, ihLeft first, ihRight second]
    constructor
    · rintro ⟨leftDone, rightDone⟩
      exact .logical leftDone rightDone
    · rintro (_ | ⟨leftDone, rightDone⟩)
      exact ⟨leftDone, rightDone⟩
  | binary op left right ih =>
    by_cases operand : ∃ query, right.bare = .subquery query
    · obtain ⟨query, operand⟩ := operand
      rw [steps_of_subquery operand] at sound ⊢
      rw [understood_subquery_iff operand]
      cases form : query.core with
      | query inner => exact absurd form (query.core_ne_query inner)
      | select block =>
        rw [form, Body.steps, Select.steps_eq] at sound
        rw [Body.steps, Select.steps_eq, Step.unreported_clause_iff]
        have inside := Step.sound_of_clause sound
        cases clause : block.selection with
        | none =>
          exact iff_of_true (by simp [selectionSteps, Unreported]) ⟨block, rfl, by simp [clause]⟩
        | some condition =>
          rw [clause, selectionSteps] at inside
          rw [selectionSteps, ih query block condition ⟨operand, form, clause⟩ inside]
          simp [clause]
      | values rows marked => exact iff_of_false (Step.not_unreported _ _) (by simp)
      | phrase parts => exact iff_of_false (Step.not_unreported _ _) (by simp)
    · exact unreported_binary_iff (not_exists.mp operand) sound
  | inList negated needle items => exact unreported_inList_iff sound
  | isNull negated operand =>
    refine iff_of_true ?_ .nullTest
    simp [Expr.steps, Unreported]
  | column | literal | subquery | phrase =>
    refine iff_of_false ?_ (fun understood => by cases understood)
    rw [Expr.steps]
    exact Step.not_unreported _ _

/-- A walk that succeeds reports nothing exactly if its predicate is understood. -/
theorem Expr.warnings_eq_nil_iff {root : Expr} {scope : Scope} {found : List Binding}
    (walked : (root.bindings scope).outcome = .ok found) :
    (root.bindings scope).warnings = [] ↔ root.Understood := by
  have alike := root.bindings_alike scope
  have done := alike.outcome.symm.trans walked
  rw [← root.unreported_steps_iff (Step.sound_of_ok done)]
  have kinds : (root.bindings scope).kinds = root.steps.filterMap Step.kind? :=
    alike.kinds.trans (Step.kinds_runAll done)
  rw [← List.map_eq_nil_iff (f := Warning.kind)]
  change (root.bindings scope).kinds = [] ↔ _
  rw [kinds, List.filterMap_eq_nil_iff]
  rfl

/-- `NOT ("a" IN ($1, 'x') AND
("d" -> 'k' = ($2) OR "t"."b" = (SELECT … FROM "u" WHERE "c" IS NULL)))` -/
def plainPredicate : Expr :=
  .negation (.nested (.logical .and
    (.inList false (.column [⟨"a", some .double⟩])
      [.literal (.placeholder "$1"), .literal (.string "x")])
    (.nested (.logical .or
      (.binary (.symbol "=")
        (.binary .arrow (.column [⟨"d", some .double⟩]) (.literal (.string "k")))
        (.nested (.literal (.placeholder "$2"))))
      (.binary (.symbol "=") (.column [⟨"t", some .double⟩, ⟨"b", some .double⟩])
        (.subquery ⟨[], .select ⟨[], [⟨.table [⟨"u", some .double⟩] none, []⟩], [],
          some (.isNull false (.column [⟨"c", some .double⟩])), []⟩, []⟩))))))

/-- A predicate with a list, a field and a subquery is understood; a comparison with a string is not. -/
theorem Expr.warnings_eq_nil_iff_plain :
    (∃ found, (plainPredicate.bindings .empty).outcome = .ok found ∧ found.length = 2 ∧
      (plainPredicate.bindings .empty).warnings = [] ∧ plainPredicate.Understood) ∧
    ∃ found, ((Expr.binary (.symbol "=") (.column [⟨"a", none⟩])
        (.literal (.string "x"))).bindings .empty).outcome = .ok found ∧
      ¬ (Expr.binary (.symbol "=") (.column [⟨"a", none⟩]) (.literal (.string "x"))).Understood := by
  constructor
  · have walked : (plainPredicate.bindings .empty).outcome =
        .ok [(⟨1, by decide, by decide⟩, { relation := .notFound, name := "a" }),
          (⟨2, by decide, by decide⟩,
            { relation := .notFound, name := "d", accessor := some ⟨"k", false⟩ })] := rfl
    exact ⟨_, walked, rfl, rfl, (Expr.warnings_eq_nil_iff walked).mp rfl⟩
  · have walked : ((Expr.binary (.symbol "=") (.column [⟨"a", none⟩])
        (.literal (.string "x"))).bindings .empty).outcome = .ok [] := rfl
    refine ⟨_, walked, fun understood => ?_⟩
    cases (Expr.warnings_eq_nil_iff walked).mpr understood

end SqlBinding
