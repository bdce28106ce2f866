import SqlBinding.Proofs.Leaves
import SqlBinding.Proofs.Param
import SqlBinding.Proofs.RewritingSteps
import SqlBinding.Proofs.Traversal

namespace SqlBinding

/-- Puts another parameter in place of each one; other placeholders stay as they are. -/
def Rewriting.renumber (numbering : Param → Param) : Rewriting where
  label := id
  reference := id
  table := id
  column := id
  target := id
  mention := id
  placeholder text :=
    match Param.ofText? text with
    | some param => (numbering param).render
    | none => text

/-- A binding of another parameter. -/
def Binding.renumber (numbering : Param → Param) (binding : Binding) : Binding :=
  (numbering binding.1, binding.2)

/-- An analysis with other parameters: each column goes with the new number of its parameter, and so
do the places in the other lists. -/
structure Analysis.Renumbers (numbering : Param → Param) (before after : Analysis) : Prop where
  params : ∀ param column, after.params.get? param = some column ↔
    ∃ old, numbering old = param ∧ before.params.get? old = some column
  placeholders : ∀ param, param ∈ after.placeholders.toList ↔
    ∃ old ∈ before.placeholders.toList, numbering old = param
  unbound : ∀ param, param ∈ after.unbound ↔ ∃ old ∈ before.unbound, numbering old = param
  kinds : after.warnings.map Warning.kind = before.warnings.map Warning.kind

section
variable {numbering : Param → Param}

theorem Rewriting.renumber_acts : (Rewriting.renumber numbering).Acts id numbering where
  unnamed := rfl
  label ident := rfl
  reference := Name.Matches.refl
  table name := rfl
  column ident := rfl
  target name := rfl
  placeholder text := by
    simp only [Rewriting.renumber]
    cases numbered : Param.ofText? text with
    | none => exact numbered
    | some param => exact (numbering param).ofText?_render

theorem Step.run_renumber (scope : Scope) (step : Step) :
    (step.rename id numbering).run scope = (do
      let found ← step.run scope
      return found.map (Binding.renumber numbering)) := by
  cases step with
  | compare declarations param reference accessor =>
    cases reference <;> simp [Step.rename, Reference.rename, Step.run, Binding.renumber]
  | _ => rfl

theorem Step.runAll_renumber (scope : Scope) (steps : List Step) :
    Step.runAll scope (steps.map (Step.rename id numbering)) = (do
      let found ← Step.runAll scope steps
      return found.map (Binding.renumber numbering)) := by
  induction steps with
  | nil => rfl
  | cons first rest ih =>
    rw [List.map_cons, Step.runAll_cons, Step.runAll_cons, Step.run_renumber, ih]
    simp only [Walk.bind_assoc, Walk.pure_bind, List.map_append]

theorem Statement.bindings_renumber (statement : Statement) (numbering : Param → Param) :
    Walk.Alike (statement.rewrite (.renumber numbering)).bindings (do
      let found ← statement.bindings
      return found.map (Binding.renumber numbering)) := by
  refine (Statement.bindings_alike _).trans ?_
  rw [Statement.steps_rewrite Rewriting.renumber_acts, Step.runAll_renumber]
  exact statement.bindings_alike.symm.bind fun found => .refl _

theorem ParamMap.get?_ofList_renumber (injective : Function.Injective numbering)
    (bindings : List Binding) (param : Param) (column : Column) :
    (ParamMap.ofList (bindings.map (Binding.renumber numbering))).get? param = some column ↔
      ∃ old, numbering old = param ∧ (ParamMap.ofList bindings).get? old = some column := by
  have moved (old : Param) :
      (ParamMap.ofList (bindings.map (Binding.renumber numbering))).get? (numbering old) =
        (ParamMap.ofList bindings).get? old := by
    rw [ParamMap.get?_ofList, ParamMap.get?_ofList, ← List.map_reverse]
    exact valueOf?_map_key injective bindings.reverse old
  constructor
  · intro found
    have key := (ParamMap.mem_keys_iff _ param).mpr ⟨column, found⟩
    obtain ⟨_, member⟩ := (ParamMap.mem_keys_ofList _ param).mp key
    obtain ⟨⟨old, _⟩, -, same⟩ := List.mem_map.mp member
    obtain rfl : numbering old = param := congrArg Prod.fst same
    exact ⟨old, rfl, (moved old).symm.trans found⟩
  · rintro ⟨old, rfl, found⟩
    exact (moved old).trans found

theorem Statement.mem_params_renumber (statement : Statement) (numbering : Param → Param)
    (param : Param) :
    param ∈ (statement.rewrite (.renumber numbering)).params.toList ↔
      ∃ old ∈ statement.params.toList, numbering old = param := by
  have inventory : (statement.rewrite (.renumber numbering)).placeholders.filterMap Param.ofText? =
      (statement.placeholders.filterMap Param.ofText?).map numbering := by
    rw [statement.placeholders_rewrite, List.filterMap_map, List.map_filterMap]
    exact congrArg (List.filterMap · statement.placeholders)
      (funext Rewriting.renumber_acts.placeholder)
  simp only [Statement.params, ParamSet.mem_ofList, inventory, List.mem_map]

/-- The unbound parameters are those that stand in the statement and have no column, so they change
along with both. -/
theorem Analysis.mem_unbound_renumber {before after : Analysis}
    (injective : Function.Injective numbering)
    (params : ∀ param column, after.params.get? param = some column ↔
      ∃ old, numbering old = param ∧ before.params.get? old = some column)
    (placeholders : ∀ param, param ∈ after.placeholders.toList ↔
      ∃ old ∈ before.placeholders.toList, numbering old = param) (param : Param) :
    param ∈ after.unbound ↔ ∃ old ∈ before.unbound, numbering old = param := by
  have bound (old : Param) : numbering old ∈ after.params.keys ↔ old ∈ before.params.keys := by
    simp only [ParamMap.mem_keys_iff, params]
    constructor
    · rintro ⟨column, other, same, found⟩
      exact ⟨column, injective same ▸ found⟩
    · rintro ⟨column, found⟩
      exact ⟨column, old, rfl, found⟩
  simp only [Analysis.mem_unbound_iff, placeholders]
  constructor
  · rintro ⟨⟨old, listed, rfl⟩, free⟩
    exact ⟨old, ⟨listed, fun held => free ((bound old).mpr held)⟩, rfl⟩
  · rintro ⟨old, ⟨listed, free⟩, rfl⟩
    exact ⟨⟨old, listed, rfl⟩, fun held => free ((bound old).mp held)⟩

theorem Analysis.renumbers_ofBindings (injective : Function.Injective numbering)
    (statement : Statement) (found : List Binding)
    (succeeded : statement.bindings.outcome = .ok found) :
    (Analysis.ofBindings statement statement.bindings found).Renumbers numbering
      (.ofBindings (statement.rewrite (.renumber numbering))
        (statement.rewrite (.renumber numbering)).bindings
        (found.map (Binding.renumber numbering))) := by
  have params := ParamMap.get?_ofList_renumber injective found
  have placeholders := statement.mem_params_renumber numbering
  refine ⟨params, placeholders, Analysis.mem_unbound_renumber injective params placeholders, ?_⟩
  refine (statement.bindings_renumber numbering).kinds.trans ?_
  rw [Walk.kinds_bind succeeded, Walk.kinds_pure, List.append_nil]
  rfl

/-- Other numbers for the parameters, different ones for different parameters: the analysis succeeds
as before, with the new numbers throughout and the same kinds of warnings, or fails with the same
error. -/
theorem Statement.analyze_renumber (injective : Function.Injective numbering)
    (statement : Statement) :
    (∃ before after, statement.analyze.outcome = .ok before ∧
        (statement.rewrite (.renumber numbering)).analyze.outcome = .ok after ∧
        before.Renumbers numbering after) ∨
      ∃ cause, statement.analyze.outcome = .error cause ∧
        (statement.rewrite (.renumber numbering)).analyze.outcome = .error cause := by
  have moved := statement.bindings_renumber numbering
  rw [Statement.analyze_outcome, Statement.analyze_outcome]
  cases walked : statement.bindings.outcome with
  | ok found =>
    rw [moved.outcome, Walk.outcome_bind walked]
    exact .inl ⟨_, _, rfl, rfl, Analysis.renumbers_ofBindings injective statement found walked⟩
  | error cause =>
    rw [moved.outcome, Walk.bind_of_error walked]
    exact .inr ⟨cause, rfl, rfl⟩

end

/-- Counts the parameters from the other end. -/
def Param.mirror (param : Param) : Param where
  number := 65536 - param.number
  positive := by
    have := param.bounded
    omega
  bounded := by
    have := param.positive
    omega

theorem Param.mirror_injective : Function.Injective Param.mirror := by
  intro first second same
  have numbers : 65536 - first.number = 65536 - second.number := congrArg Param.number same
  have := first.bounded
  have := second.bounded
  exact Param.ext (by omega)

/-- `SELECT … FROM "t" WHERE "a" = $1 AND "b" = $2 AND "c" = $1 AND $3 IS NULL` -/
def comparedTwice : Statement :=
  .query ⟨[], .select ⟨[], [⟨.table [⟨"t", some .double⟩] none, []⟩], [],
    some (.logical .and (.logical .and (.logical .and
      (comparedWith [⟨"a", some .double⟩] "$1") (comparedWith [⟨"b", some .double⟩] "$2"))
      (comparedWith [⟨"c", some .double⟩] "$1"))
      (.isNull false (.literal (.placeholder "$3")))), []⟩, []⟩

/-- The last comparison of a parameter counts, be its number the least or the greatest one. -/
theorem Statement.analyze_renumber_mirrored :
    Function.Injective Param.mirror ∧
    ∃ after, (comparedTwice.rewrite (.renumber Param.mirror)).analyze.outcome = .ok after ∧
      after.params.get? ⟨65535, by decide, by decide⟩ =
        some { relation := ⟨none, "t"⟩, name := "c" } ∧
      after.params.get? ⟨65534, by decide, by decide⟩ =
        some { relation := ⟨none, "t"⟩, name := "b" } ∧
      ⟨65533, by decide, by decide⟩ ∈ after.unbound := by
  have walked : comparedTwice.bindings.outcome =
      .ok [(⟨1, by decide, by decide⟩, { relation := ⟨none, "t"⟩, name := "a" }),
        (⟨2, by decide, by decide⟩, { relation := ⟨none, "t"⟩, name := "b" }),
        (⟨1, by decide, by decide⟩, { relation := ⟨none, "t"⟩, name := "c" })] := rfl
  have analyzed := Statement.analyze_ok_iff.mpr ⟨_, walked, rfl⟩
  refine ⟨Param.mirror_injective, ?_⟩
  rcases Statement.analyze_renumber Param.mirror_injective comparedTwice with
    ⟨before, after, done, rewritten, renumbers⟩ | ⟨cause, failed, -⟩
  · obtain rfl := Except.ok.inj (analyzed.symm.trans done)
    refine ⟨after, rewritten, ?_, ?_, ?_⟩
    · exact (renumbers.params _ _).mpr ⟨⟨1, by decide, by decide⟩, rfl, rfl⟩
    · exact (renumbers.params _ _).mpr ⟨⟨2, by decide, by decide⟩, rfl, rfl⟩
    · exact (renumbers.unbound _).mpr ⟨⟨3, by decide, by decide⟩, by decide, rfl⟩
  · cases analyzed.symm.trans failed

end SqlBinding
