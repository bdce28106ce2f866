import SqlBinding.Proofs.Aliases
import SqlBinding.Proofs.RewritingSteps

/-! Renaming an alias. The name of an alias serves only to find the table again, so a statement means
the same if an alias of its outermost scope is given another name throughout, as long as that name is
new.
-/

namespace SqlBinding

/-- The name in place of a name. -/
def renamed (old new name : String) : String := if name = old then new else name

/-- The new name tells apart what was told apart before. -/
theorem renamed_eq_iff {old new first second : String} (fresh : first ≠ new)
    (alsoFresh : second ≠ new) :
    renamed old new first = renamed old new second ↔ first = second := by
  refine ⟨fun same => ?_, congrArg _⟩
  unfold renamed at same
  split at same
  case isTrue here =>
    split at same
    case isTrue there => exact here.trans there.symm
    case isFalse => exact absurd same.symm alsoFresh
  case isFalse =>
    split at same
    case isTrue => exact absurd same fresh
    case isFalse => exact same

theorem renamed_of_ne {old new name : String} (apart : name ≠ old) : renamed old new name = name :=
  if_neg apart

namespace Scope

/-- A scope with a new name in place of a name. -/
structure Renamed (old new : String) (scope other : Scope) : Prop where
  entries : other.entries = scope.entries.map fun entry => (renamed old new entry.1, entry.2)
  fresh : ∀ entry ∈ scope.entries, entry.1 ≠ new

namespace Renamed
variable {old new : String} {scope other : Scope}

theorem empty : Renamed old new .empty .empty := ⟨rfl, by simp [Scope.empty]⟩

theorem insert (same : Renamed old new scope other) (fresh : name ≠ new) (relation : Relation) :
    Renamed old new (scope.insert name relation) (other.insert (renamed old new name) relation) := by
  refine ⟨?_, fun entry member => ?_⟩
  · have known := same.fresh
    change upsert _ _ other.entries = (upsert _ _ scope.entries).map _
    rw [same.entries]
    generalize scope.entries = entries at known ⊢
    induction entries with
    | nil => rfl
    | cons first rest ih =>
      obtain ⟨firstFresh, restFresh⟩ := List.forall_mem_cons.mp known
      simp only [List.map_cons, upsert, renamed_eq_iff firstFresh fresh]
      split
      · rfl
      · rw [ih restFresh, List.map_cons]
  · rcases mem_upsert_names.mp (List.mem_map_of_mem (f := Prod.fst) member) with here | earlier
    · exact here ▸ fresh
    · obtain ⟨present, member, key⟩ := List.mem_map.mp earlier
      exact key ▸ same.fresh present member

theorem declare (same : Renamed old new scope other) {declarations : List (String × Relation)}
    (fresh : ∀ entry ∈ declarations, entry.1 ≠ new) :
    Renamed old new (scope.declare declarations)
      (other.declare (declarations.map fun entry => (renamed old new entry.1, entry.2))) := by
  induction declarations generalizing scope other with
  | nil => exact same
  | cons first rest ih =>
    obtain ⟨firstFresh, restFresh⟩ := List.forall_mem_cons.mp fresh
    exact ih (same.insert firstFresh first.2) restFresh

theorem get? (same : Renamed old new scope other) (fresh : name ≠ new) :
    other.get? (renamed old new name) = scope.get? name := by
  have known := same.fresh
  change valueOf? other.entries _ = valueOf? scope.entries _
  rw [same.entries]
  generalize scope.entries = entries at known ⊢
  induction entries with
  | nil => rfl
  | cons first rest ih =>
    obtain ⟨firstFresh, restFresh⟩ := List.forall_mem_cons.mp known
    simp only [List.map_cons, valueOf?_cons, renamed_eq_iff firstFresh fresh]
    rw [ih restFresh]

theorem unqualified (same : Renamed old new scope other) (named : old ≠ "") (alsoNamed : new ≠ "") :
    other.unqualified = scope.unqualified := by
  have fallback : other.get? "" = scope.get? "" := by
    rw [← same.get? alsoNamed.symm, renamed_of_ne named.symm]
  have entries := same.entries
  unfold Scope.unqualified
  match form : scope.entries with
  | [] => rw [entries, form, fallback]; rfl
  | [entry] => rw [entries, form]; rfl
  | first :: second :: rest => rw [entries, form, fallback]; rfl

/-- A reference with the new name leads where it led with the old one, which has to be declared. -/
theorem relationOf (same : Renamed old new scope other) (named : old ≠ "") (alsoNamed : new ≠ "")
    (declared : scope.get? old = some relation) (reference : Reference)
    (fresh : reference.qualifier? ≠ some new) :
    other.relationOf (reference.rename (renamed old new)) = scope.relationOf reference := by
  cases reference with
  | plain column => exact same.unqualified named alsoNamed
  | qualified qualifier column =>
    have known : qualifier ≠ new := fun here => fresh (congrArg some here)
    simp only [Reference.rename, Scope.relationOf, same.get? known]
    cases found : scope.get? qualifier with
    | some relation => rfl
    | none =>
      have apart : qualifier ≠ old := by
        rintro rfl
        cases found.symm.trans declared
      rw [renamed_of_ne apart]

end Renamed
end Scope

theorem Step.run_rename {step : Step} {old new : String} (named : old ≠ "") (alsoNamed : new ≠ "")
    (fresh : ∀ name, step.Names name → name ≠ new)
    (declared : ∀ declarations param reference accessor,
      step = .compare declarations param reference accessor →
        ∃ relation, (Scope.empty.declare declarations).get? old = some relation) :
    (step.rename (renamed old new) id).run .empty = step.run .empty := by
  cases step with
  | compare declarations param reference accessor =>
    obtain ⟨relation, found⟩ := declared _ _ _ _ rfl
    have scopes : Scope.Renamed old new (Scope.empty.declare declarations) _ :=
      Scope.Renamed.empty.declare fun entry member =>
        fresh entry.1 (.inl (List.mem_map_of_mem member))
    have same := scopes.relationOf named alsoNamed found reference fun qualified =>
      fresh new (.inr qualified) rfl
    simp only [Step.rename, Step.run, Scope.columnOf, same]
    cases reference <;> rfl
  | _ => rfl

/-- An identifier in one spelling of a new name, if it stands for the old one. -/
def Ident.relabel (old new : String) (ident : Ident) : Ident :=
  if ident.canonical = old then ⟨new, some .double⟩ else ident

/-- Puts a new name in place of an alias and of the qualifiers that refer to it. Names that are only
written out, and all parts of a target of an assignment but its last, are left open. -/
def Rewriting.relabel (old new : String) : Rewriting where
  label := Ident.relabel old new
  reference
    | qualifier :: column :: rest => qualifier.relabel old new :: column :: rest
    | parts => parts
  table := id
  column := id
  target name := name.getLast?.toList
  mention _ := []
  placeholder := id

theorem Ident.canonical_relabel (old new : String) (ident : Ident) :
    (ident.relabel old new).canonical = renamed old new ident.canonical := by
  unfold Ident.relabel renamed
  split <;> rfl

theorem Rewriting.relabel_acts {old : String} (named : old ≠ "") (new : String) :
    (Rewriting.relabel old new).Acts (renamed old new) id where
  unnamed := renamed_of_ne named.symm
  label := Ident.canonical_relabel old new
  reference parts := by
    match parts with
    | [] => exact ⟨rfl, Iff.rfl⟩
    | [column] => exact ⟨rfl, Iff.rfl⟩
    | qualifier :: column :: rest =>
      refine ⟨?_, Iff.rfl⟩
      simp only [Rewriting.relabel, Reference.of?, Ident.canonical_relabel]
      rfl
  table name := rfl
  column ident := rfl
  target name := by
    cases last : name.getLast? <;> simp [Rewriting.relabel, last]
  placeholder text := by simp [Rewriting.relabel]

/-- A statement is another one with a new name for an alias, in any spelling: they are the same as soon
as both have it in one spelling. -/
def Statement.Relabels (old new : String) (before after : Statement) : Prop :=
  after.rewrite (.relabel new new) = before.rewrite (.relabel old new)

namespace Statement
variable {before after : Statement} {old new : String}

theorem Relabels.steps_eq (relabels : before.Relabels old new after) (named : old ≠ "")
    (alsoNamed : new ≠ "") : after.steps = before.steps.map (Step.rename (renamed old new) id) := by
  have settled : renamed new new = id := by
    funext name
    unfold renamed
    split
    case isTrue here => exact here.symm
    case isFalse => rfl
  rw [← steps_rewrite (Rewriting.relabel_acts named new), ← relabels,
    steps_rewrite (Rewriting.relabel_acts alsoNamed new), settled, Step.rename_id, List.map_id]

theorem Relabels.placeholders_eq (relabels : before.Relabels old new after) :
    after.placeholders = before.placeholders := by
  have same := congrArg Statement.placeholders relabels
  rw [placeholders_rewrite, placeholders_rewrite] at same
  simpa [Rewriting.relabel] using same

/-- The steps of a statement bind the same columns under a new name for an alias that is declared
around all of them. -/
theorem runAll_rename {scope : Scope} (entered : before.outerScope.outcome = .ok scope)
    (declared : scope.get? old = some relation) (named : old ≠ "") (alsoNamed : new ≠ "")
    (fresh : ¬ (Node.statement before).Uses new) :
    Step.runAll .empty (before.steps.map (Step.rename (renamed old new) id)) =
      Step.runAll .empty before.steps := by
  have run (step : Step) (member : step ∈ before.steps) :
      (step.rename (renamed old new) id).run .empty = step.run .empty := by
    refine Step.run_rename named alsoNamed ?_ ?_
    · rintro name used rfl
      exact (names_of_steps member used).elim alsoNamed fresh
    · rintro declarations param reference accessor rfl
      obtain ⟨condition, inner, -, -, rfl⟩ := compare_mem_steps member
      rw [before.outerScope_alike.outcome] at entered
      rw [Scope.declare_append, ← Scope.withTables_ok entered, Scope.get?_declare, declared]
      cases valueOf? inner.reverse old with
      | none => exact ⟨relation, rfl⟩
      | some inside => exact ⟨inside, rfl⟩
  generalize before.steps = steps at run
  induction steps with
  | nil => rfl
  | cons first rest ih =>
    obtain ⟨here, later⟩ := List.forall_mem_cons.mp run
    rw [List.map_cons, Step.runAll_cons, Step.runAll_cons, here, ih later]

/-- An alias of the outermost scope may be given a new name throughout: bindings, placeholders, kinds
of warnings and errors stay the same. -/
theorem analyze_relabels {scope : Scope} {relation : Relation}
    (entered : before.outerScope.outcome = .ok scope) (declared : scope.get? old = some relation)
    (named : old ≠ "") (alsoNamed : new ≠ "") (fresh : ¬ (Node.statement before).Uses new)
    (relabels : before.Relabels old new after) :
    after.analyze.outcome.map (fun analysis => (analysis.outline, analysis.placeholders)) =
      before.analyze.outcome.map fun analysis => (analysis.outline, analysis.placeholders) := by
  have outline : after.analyze.outcome.map Analysis.outline =
      before.analyze.outcome.map Analysis.outline := by
    rw [after.outline_eq, before.outline_eq, relabels.steps_eq named alsoNamed,
      runAll_rename entered declared named alsoNamed fresh]
  have params : after.params = before.params := by
    rw [Statement.params, Statement.params, relabels.placeholders_eq]
  rw [after.outline_placeholders_eq, before.outline_placeholders_eq, outline, params]

/-- `SELECT … FROM "orders" AS … WHERE "day" = (SELECT … FROM "lines" WHERE …."id" = $1)` -/
def ordersByLines (label : Ident) : Statement :=
  .query ⟨[], .select ⟨[], [⟨.table [⟨"orders", some .double⟩] (some ⟨label, []⟩), []⟩], [],
    some (.binary (.symbol "=") (.column [⟨"day", some .double⟩])
      (.subquery ⟨[], .select ⟨[], [⟨.table [⟨"lines", some .double⟩] none, []⟩], [],
        some (.binary (.symbol "=") (.column [label, ⟨"id", some .double⟩])
          (.literal (.placeholder "$1"))), []⟩, []⟩)), []⟩, []⟩

/-- A name is not used in a tree if it is neither at the root nor in a child. -/
private theorem not_uses {node : Node} (own : ∀ ident ∈ node.aliases, ident.canonical ≠ name)
    (below : ∀ child ∈ node.children, ¬ child.Uses name) : ¬ node.Uses name := by
  rintro (⟨here⟩ | ⟨member, inside⟩)
  · exact own _ here rfl
  · exact below _ member inside

/-- The alias is renamed where it is declared and in a subquery. -/
theorem analyze_relabels_orders :
    (ordersByLines ⟨"o", some .double⟩).Relabels "o" "p" (ordersByLines ⟨"p", some .backtick⟩) ∧
    (ordersByLines ⟨"p", some .backtick⟩).analyze.outcome.map
        (fun analysis => (analysis.outline, analysis.placeholders)) =
      (ordersByLines ⟨"o", some .double⟩).analyze.outcome.map
        fun analysis => (analysis.outline, analysis.placeholders) := by
  have entered : (ordersByLines ⟨"o", some .double⟩).outerScope.outcome =
      .ok (Scope.empty.declare [("o", ⟨none, "orders"⟩)]) := rfl
  have fresh : ¬ (Node.statement (ordersByLines ⟨"o", some .double⟩)).Uses "p" := by
    repeat' first
      | exact List.forall_mem_nil _
      | refine List.forall_mem_cons.mpr ⟨?_, ?_⟩
      | refine not_uses (by decide) ?_
  have relabels : (ordersByLines ⟨"o", some .double⟩).Relabels "o" "p"
      (ordersByLines ⟨"p", some .backtick⟩) := rfl
  exact ⟨relabels, analyze_relabels entered rfl (by decide) (by decide) fresh relabels⟩

end Statement

end SqlBinding
