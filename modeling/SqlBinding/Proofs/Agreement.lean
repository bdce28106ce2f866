import SqlBinding.Proofs.Alike

/-! Walks in turn and side by side. A walk over a list tells what its steps tell, up to the first that
fails. Two walks agree if they report the same, texts included, and end in the same way; what they find
may still differ, as far as a relation allows.
-/

namespace SqlBinding.Walk
variable {α β γ δ : Type}

/-- A walk that takes a step for each item of a list in turn. If all steps succeed it puts together
what they find; otherwise it ends with the first that fails and has told what happened up to there. -/
inductive InTurn (step : α → Walk (List β)) (items : List α) (walk : Walk (List β)) : Prop where
  | completed (parts : List (List β))
      (each : items.map (fun item => (step item).outcome) = parts.map .ok)
      (outcome : walk.outcome = .ok parts.flatten)
      (events : walk.events = items.flatMap fun item => (step item).events)
      (warnings : walk.warnings = items.flatMap fun item => (step item).warnings)
  | stopped (before : List α) (item : α) (after : List α) (cause : Malformed)
      (split : items = before ++ item :: after)
      (sound : ∀ earlier ∈ before, ∃ part, (step earlier).outcome = .ok part)
      (failed : (step item).outcome = .error cause)
      (outcome : walk.outcome = .error cause)
      (events : walk.events = (before ++ [item]).flatMap fun item => (step item).events)
      (warnings : walk.warnings = (before ++ [item]).flatMap fun item => (step item).warnings)

theorem gather_inTurn (step : α → Walk (List β)) (items : List α) :
    InTurn step items (gather step items) := by
  induction items with
  | nil => exact .completed [] rfl rfl rfl rfl
  | cons first rest ih =>
    cases done : (step first).outcome with
    | error cause =>
      have ended : gather step (first :: rest) =
          ⟨(step first).events, (step first).warnings, .error cause⟩ := bind_of_error done _
      refine .stopped [] first rest cause rfl (List.forall_mem_nil _) done ?_ ?_ ?_
      · rw [ended]
      · rw [ended, List.nil_append, List.flatMap_singleton]
      · rw [ended, List.nil_append, List.flatMap_singleton]
    | ok part =>
      cases ih with
      | completed parts each outcome events warnings =>
        refine .completed (part :: parts) ?_ ?_ ?_ ?_
        · rw [List.map_cons, done, each, List.map_cons]
        · rw [gather, outcome_bind done, outcome_bind outcome]
          rfl
        · rw [gather, events_bind done, events_bind outcome, events, events_pure, List.append_nil,
            List.flatMap_cons]
        · rw [gather, warnings_bind done, warnings_bind outcome, warnings, warnings_pure,
            List.append_nil, List.flatMap_cons]
      | stopped before item after cause split sound failed outcome events warnings =>
        have covered : ∀ earlier ∈ first :: before, ∃ part, (step earlier).outcome = .ok part :=
          List.forall_mem_cons.mpr ⟨⟨part, done⟩, sound⟩
        refine .stopped (first :: before) item after cause (congrArg (first :: ·) split) covered failed
          ?_ ?_ ?_
        · rw [gather, outcome_bind done, bind_of_error outcome]
        · rw [gather, events_bind done, bind_of_error outcome, events, List.cons_append,
            List.flatMap_cons]
        · rw [gather, warnings_bind done, bind_of_error outcome, warnings, List.cons_append,
            List.flatMap_cons]

/-- A walk over a list succeeds if each step does. -/
theorem gather_ok_iff {step : α → Walk (List β)} {items : List α} :
    (∃ found, (gather step items).outcome = .ok found) ↔
      ∀ item ∈ items, ∃ part, (step item).outcome = .ok part := by
  induction items with
  | nil => exact iff_of_true ⟨[], rfl⟩ (List.forall_mem_nil _)
  | cons first rest ih =>
    rw [List.forall_mem_cons, ← ih]
    constructor
    · intro given
      obtain ⟨_, gathered⟩ := given
      obtain ⟨head, tail, stepped, others, -⟩ := gather_cons_ok_iff.mp gathered
      exact ⟨⟨head, stepped⟩, ⟨tail, others⟩⟩
    · intro given
      obtain ⟨⟨head, stepped⟩, ⟨tail, others⟩⟩ := given
      exact ⟨head ++ tail, gather_cons_ok_iff.mpr ⟨head, tail, stepped, others, rfl⟩⟩

/-- A walk that succeeds reports what its steps report, in turn. -/
theorem warnings_gather {step : α → Walk (List β)} {items : List α}
    (gathered : (gather step items).outcome = .ok found) :
    (gather step items).warnings = items.flatMap fun item => (step item).warnings := by
  cases gather_inTurn step items with
  | completed _ _ _ _ warnings => exact warnings
  | stopped _ _ _ _ _ _ _ failed =>
    rw [failed] at gathered
    cases gathered

/-- Steps without warnings make a walk without warnings. -/
theorem warnings_gather_eq_nil {step : α → Walk (List β)} (silent : ∀ item, (step item).warnings = [])
    (items : List α) : (gather step items).warnings = [] := by
  cases gather_inTurn step items with
  | completed _ _ _ _ warnings => simp [warnings, silent]
  | stopped _ _ _ _ _ _ _ _ _ warnings => simp [warnings, silent]

theorem warnings_bind_pure (walk : Walk α) (convert : α → β) :
    (walk >>= fun value => pure (convert value)).warnings = walk.warnings := by
  cases done : walk.outcome with
  | ok value => exact (warnings_bind done _).trans (List.append_nil _)
  | error cause =>
    rw [bind_of_error done]

/-- Two walks that report the same and either fail for the same reason or find related values. -/
structure Agree (rel : α → β → Prop) (first : Walk α) (second : Walk β) : Prop where
  warnings : first.warnings = second.warnings
  outcome : (∃ value other, first.outcome = .ok value ∧ second.outcome = .ok other ∧
      rel value other) ∨
    ∃ cause, first.outcome = .error cause ∧ second.outcome = .error cause

namespace Agree

theorem refl {rel : α → α → Prop} (walk : Walk α)
    (related : ∀ value, walk.outcome = .ok value → rel value value) : Agree rel walk walk := by
  refine ⟨rfl, ?_⟩
  cases done : walk.outcome with
  | ok value => exact .inl ⟨value, value, rfl, rfl, related value done⟩
  | error cause => exact .inr ⟨cause, rfl, rfl⟩

theorem pure {rel : α → β → Prop} {value : α} {other : β} (related : rel value other) :
    Agree rel (pure value) (pure other) :=
  ⟨rfl, .inl ⟨value, other, rfl, rfl, related⟩⟩

/-- Events by themselves do not count. -/
theorem emit (event other : Event) : Agree Eq (emit event) (emit other) :=
  ⟨rfl, .inl ⟨(), (), rfl, rfl, rfl⟩⟩

theorem mono {rel weaker : α → β → Prop} {first : Walk α} {second : Walk β}
    (agree : Agree rel first second) (implied : ∀ value other, rel value other → weaker value other) :
    Agree weaker first second := by
  refine ⟨agree.warnings, ?_⟩
  rcases agree.outcome with ⟨value, other, firstDone, secondDone, related⟩ | failed
  · exact .inl ⟨value, other, firstDone, secondDone, implied value other related⟩
  · exact .inr failed

/-- Walks that agree go on to agree if related values are continued by walks that agree. -/
theorem bind {rel : α → β → Prop} {after : γ → δ → Prop} {first : Walk α} {second : Walk β}
    {next : α → Walk γ} {other : β → Walk δ} (agree : Agree rel first second)
    (rest : ∀ value found, rel value found → Agree after (next value) (other found)) :
    Agree after (first >>= next) (second >>= other) := by
  rcases agree.outcome with
    ⟨value, found, firstDone, secondDone, related⟩ | ⟨cause, failed, alsoFailed⟩
  · have continued := rest value found related
    refine ⟨?_, ?_⟩
    · rw [warnings_bind firstDone, warnings_bind secondDone, agree.warnings, continued.warnings]
    · rw [outcome_bind firstDone, outcome_bind secondDone]
      exact continued.outcome
  · rw [bind_of_error failed, bind_of_error alsoFailed]
    exact ⟨agree.warnings, .inr ⟨cause, rfl, rfl⟩⟩

/-- A walk may be continued in two ways that agree on what it finds. -/
theorem bind_same {after : γ → δ → Prop} {next : α → Walk γ} {other : α → Walk δ} (walk : Walk α)
    (rest : ∀ value, walk.outcome = .ok value → Agree after (next value) (other value)) :
    Agree after (walk >>= next) (walk >>= other) := by
  have same : Agree (fun value found => value = found ∧ walk.outcome = .ok value) walk walk :=
    .refl walk fun value done => ⟨rfl, done⟩
  apply same.bind
  rintro value _ ⟨rfl, done⟩
  exact rest value done

theorem emit_bind {rel : α → β → Prop} {event : Event} {next : Unit → Walk α} {other : Walk β}
    (agree : Agree rel (next ()) other) : Agree rel (Walk.emit event >>= next) other := by
  refine ⟨?_, ?_⟩
  · rw [warnings_bind (outcome_emit event), warnings_emit, List.nil_append]
    exact agree.warnings
  · rw [outcome_bind (outcome_emit event)]
    exact agree.outcome

theorem symm {first second : Walk α} (agree : Agree Eq first second) : Agree Eq second first := by
  refine ⟨agree.warnings.symm, ?_⟩
  rcases agree.outcome with ⟨value, _, firstDone, secondDone, rfl⟩ | ⟨cause, failed, alsoFailed⟩
  · exact .inl ⟨value, value, secondDone, firstDone, rfl⟩
  · exact .inr ⟨cause, alsoFailed, failed⟩

theorem outcome_eq {first second : Walk α} (agree : Agree Eq first second) :
    first.outcome = second.outcome := by
  rcases agree.outcome with ⟨value, other, firstDone, secondDone, rfl⟩ | ⟨cause, failed, alsoFailed⟩
  · rw [firstDone, secondDone]
  · rw [failed, alsoFailed]

end Agree

/-- Two walks that report the same and fail for the same reason; they find the same values if a
condition holds. -/
def AgreeIf (condition : Prop) (first second : Walk α) : Prop :=
  Agree (fun value other => condition → value = other) first second

namespace AgreeIf
variable {condition stronger : Prop}

theorem refl (walk : Walk α) : AgreeIf condition walk walk := Agree.refl walk fun _ _ _ => rfl

theorem imp {first second : Walk α} (agree : AgreeIf condition first second)
    (implied : stronger → condition) : AgreeIf stronger first second :=
  agree.mono fun _ _ same holds => same (implied holds)

theorem outcome_eq {first second : Walk α} (agree : AgreeIf condition first second)
    (holds : condition) : first.outcome = second.outcome :=
  (agree.mono fun _ _ same => same holds).outcome_eq

theorem error_iff {first second : Walk α} (agree : AgreeIf condition first second)
    (cause : Malformed) : first.outcome = .error cause ↔ second.outcome = .error cause := by
  rcases agree.outcome with ⟨value, other, firstDone, secondDone, -⟩ | ⟨actual, failed, alsoFailed⟩
  · rw [firstDone, secondDone]
    exact iff_of_false nofun nofun
  · rw [failed, alsoFailed]

theorem gather {step other : α → Walk (List β)}
    (each : ∀ item, AgreeIf condition (step item) (other item)) (items : List α) :
    AgreeIf condition (gather step items) (gather other items) := by
  induction items with
  | nil => exact .refl _
  | cons first rest ih =>
    apply (each first).bind
    intro found same equal
    apply Agree.bind ih
    intro more others equalRest
    refine .pure fun holds => ?_
    rw [equal holds, equalRest holds]

end AgreeIf

end SqlBinding.Walk
