import SqlBinding.Walk

namespace SqlBinding.Walk
variable {α β : Type}

@[simp] theorem outcome_pure (value : α) : (pure value : Walk α).outcome = .ok value := rfl

@[simp] theorem events_pure (value : α) : (pure value : Walk α).events = [] := rfl

@[simp] theorem warnings_pure (value : α) : (pure value : Walk α).warnings = [] := rfl

@[simp] theorem outcome_emit (event : Event) : (emit event).outcome = .ok () := rfl

@[simp] theorem warnings_emit (event : Event) : (emit event).warnings = [] := rfl

@[simp] theorem outcome_warn (kind : Warning.Kind) (node : String) :
    (warn kind node).outcome = .ok () := rfl

theorem bind_ok_iff {walk : Walk α} {next : α → Walk β} {result : β} :
    (walk >>= next).outcome = .ok result ↔
      ∃ value, walk.outcome = .ok value ∧ (next value).outcome = .ok result := by
  change (Walk.bind walk next).outcome = .ok result ↔ _
  unfold Walk.bind
  cases walk.outcome with
  | ok value => simp
  | error cause => simp

theorem events_bind {walk : Walk α} {value : α} (succeeded : walk.outcome = .ok value)
    (next : α → Walk β) : (walk >>= next).events = walk.events ++ (next value).events := by
  change (Walk.bind walk next).events = _
  unfold Walk.bind
  rw [succeeded]

theorem warnings_bind {walk : Walk α} {value : α} (succeeded : walk.outcome = .ok value)
    (next : α → Walk β) : (walk >>= next).warnings = walk.warnings ++ (next value).warnings := by
  change (Walk.bind walk next).warnings = _
  unfold Walk.bind
  rw [succeeded]

theorem outcome_bind {walk : Walk α} {value : α} (succeeded : walk.outcome = .ok value)
    (next : α → Walk β) : (walk >>= next).outcome = (next value).outcome := by
  change (Walk.bind walk next).outcome = _
  unfold Walk.bind
  rw [succeeded]

theorem require_ok_iff {cause : Malformed} {found : Option α} {value : α} :
    (require cause found).outcome = .ok value ↔ found = some value := by
  cases found with
  | none => simp [require, fail]
  | some actual => simp [require]

theorem gather_cons_ok_iff {step : α → Walk (List β)} {first : α} {rest : List α}
    {found : List β} :
    (gather step (first :: rest)).outcome = .ok found ↔
      ∃ head tail, (step first).outcome = .ok head ∧ (gather step rest).outcome = .ok tail ∧
        found = head ++ tail := by
  simp only [gather, bind_ok_iff, outcome_pure, Except.ok.injEq]
  constructor
  · intro given
    obtain ⟨head, stepped, tail, gathered, rfl⟩ := given
    exact ⟨head, tail, stepped, gathered, rfl⟩
  · intro given
    obtain ⟨head, tail, stepped, gathered, rfl⟩ := given
    exact ⟨head, stepped, tail, gathered, rfl⟩

/-- What a successful walk found in a list, element by element. -/
theorem mem_of_gather_ok {step : α → Walk (List β)} {items : List α} {found : List β}
    (gathered : (gather step items).outcome = .ok found) {value : β} (member : value ∈ found) :
    ∃ item ∈ items, ∃ part, (step item).outcome = .ok part ∧ value ∈ part := by
  induction items generalizing found with
  | nil =>
    cases gathered
    cases member
  | cons first rest ih =>
    obtain ⟨head, tail, stepped, others, rfl⟩ := gather_cons_ok_iff.mp gathered
    rcases List.mem_append.mp member with early | late
    · exact ⟨first, List.mem_cons_self, head, stepped, early⟩
    · obtain ⟨item, present, part, done, inside⟩ := ih others late
      exact ⟨item, List.mem_cons_of_mem first present, part, done, inside⟩

/-- A walk that is told and reported as one piece of another. -/
structure Within (part : Walk α) (whole : Walk β) : Prop where
  events : part.events <:+: whole.events
  warnings : part.warnings <:+: whole.warnings

namespace Within

theorem refl (walk : Walk α) : Within walk walk := ⟨List.infix_refl _, List.infix_refl _⟩

variable {γ : Type} {part : Walk γ} {walk : Walk α} {next : α → Walk β}

theorem trans {whole : Walk β} (inside : Within part walk) (around : Within walk whole) :
    Within part whole :=
  ⟨inside.events.trans around.events, inside.warnings.trans around.warnings⟩

/-- A walk that goes on after success contains what it contained before. -/
theorem start (succeeded : walk.outcome = .ok value) (inside : Within part walk) :
    Within part (walk >>= next) := by
  constructor
  · rw [events_bind succeeded]
    exact inside.events.trans (List.prefix_append _ _).isInfix
  · rw [warnings_bind succeeded]
    exact inside.warnings.trans (List.prefix_append _ _).isInfix

theorem rest (succeeded : walk.outcome = .ok value) (inside : Within part (next value)) :
    Within part (walk >>= next) := by
  constructor
  · rw [events_bind succeeded]
    exact inside.events.trans (List.suffix_append _ _).isInfix
  · rw [warnings_bind succeeded]
    exact inside.warnings.trans (List.suffix_append _ _).isInfix

end Within

end SqlBinding.Walk
