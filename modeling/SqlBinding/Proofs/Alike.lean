import SqlBinding.Proofs.Walk

/-! Walks compared by the kinds of syntax they report and by what they end with. Texts of warnings and
other events may differ between walks that are alike, and walks stay alike if they are continued alike.
-/

namespace SqlBinding.Walk
variable {α β : Type}

@[simp] theorem pure_bind (value : α) (next : α → Walk β) : pure value >>= next = next value := rfl

theorem fail_bind (cause : Malformed) (next : α → Walk β) : fail cause >>= next = fail cause := rfl

/-- Steps of a walk may be grouped in either way. -/
theorem bind_assoc {γ : Type} (walk : Walk α) (next : α → Walk β) (last : β → Walk γ) :
    walk >>= next >>= last = walk >>= fun value => next value >>= last := by
  change Walk.bind (Walk.bind walk next) last = Walk.bind walk fun value => Walk.bind (next value) last
  obtain ⟨events, warnings, outcome⟩ := walk
  cases outcome with
  | error cause => rfl
  | ok value =>
    simp only [Walk.bind]
    cases (next value).outcome with
    | error cause => rfl
    | ok result => simp only [List.append_assoc]

theorem bind_pure (walk : Walk α) : walk >>= pure = walk := by
  change Walk.bind walk pure = walk
  obtain ⟨events, warnings, outcome⟩ := walk
  cases outcome with
  | error cause => rfl
  | ok value =>
    change Walk.mk (events ++ []) (warnings ++ []) (.ok value) = _
    rw [List.append_nil, List.append_nil]

/-- What walks over two lists find is put together as what one walk over both finds. -/
theorem gather_append (step : α → Walk (List β)) (items others : List α) :
    gather step (items ++ others) = (do
      let found ← gather step items
      let more ← gather step others
      return found ++ more) := by
  induction items with
  | nil => exact (bind_pure _).symm
  | cons first rest ih =>
    simp only [List.cons_append, gather, ih, bind_assoc, pure_bind, List.append_assoc]

theorem gather_singleton (step : α → Walk (List β)) (item : α) : gather step [item] = step item := by
  simp only [gather, pure_bind, List.append_nil]
  exact bind_pure _

/-- The kinds of syntax that a walk reports, in order. -/
def kinds (walk : Walk α) : List Warning.Kind := walk.warnings.map Warning.kind

@[simp] theorem kinds_pure (value : α) : (pure value : Walk α).kinds = [] := rfl

theorem kinds_bind {walk : Walk α} (succeeded : walk.outcome = .ok value) (next : α → Walk β) :
    (walk >>= next).kinds = walk.kinds ++ (next value).kinds := by
  rw [kinds, warnings_bind succeeded, List.map_append]
  rfl

theorem bind_of_error {walk : Walk α} (failed : walk.outcome = .error cause) (next : α → Walk β) :
    walk >>= next = ⟨walk.events, walk.warnings, .error cause⟩ := by
  change Walk.bind walk next = _
  unfold Walk.bind
  rw [failed]

theorem bind_error_iff {walk : Walk α} {next : α → Walk β} {cause : Malformed} :
    (walk >>= next).outcome = .error cause ↔ walk.outcome = .error cause ∨
      ∃ value, walk.outcome = .ok value ∧ (next value).outcome = .error cause := by
  cases done : walk.outcome with
  | error actual => simp [bind_of_error done]
  | ok value => simp [outcome_bind done]

/-- Two walks that report the same kinds of syntax and end in the same way. -/
structure Alike (first second : Walk α) : Prop where
  kinds : first.kinds = second.kinds
  outcome : first.outcome = second.outcome

namespace Alike

theorem refl (walk : Walk α) : Alike walk walk := ⟨rfl, rfl⟩

theorem symm {first second : Walk α} (alike : Alike first second) : Alike second first :=
  ⟨alike.kinds.symm, alike.outcome.symm⟩

theorem trans {first second third : Walk α} (start : Alike first second) (rest : Alike second third) :
    Alike first third :=
  ⟨start.kinds.trans rest.kinds, start.outcome.trans rest.outcome⟩

theorem bind {first second : Walk α} {next other : α → Walk β} (start : Alike first second)
    (rest : ∀ value, Alike (next value) (other value)) :
    Alike (first >>= next) (second >>= other) := by
  cases done : second.outcome with
  | error cause =>
    have failed := start.outcome.trans done
    rw [bind_of_error failed, bind_of_error done]
    exact ⟨start.kinds, rfl⟩
  | ok value =>
    have succeeded := start.outcome.trans done
    refine ⟨?_, ?_⟩
    · rw [kinds_bind succeeded, kinds_bind done, start.kinds, (rest value).kinds]
    · rw [outcome_bind succeeded, outcome_bind done]
      exact (rest value).outcome

/-- The texts of warnings do not count. -/
theorem warn (kind : Warning.Kind) (node other : String) :
    Alike (Walk.warn kind node) (Walk.warn kind other) := ⟨rfl, rfl⟩

/-- Events by themselves do not count. -/
theorem emit_bind (event : Event) (next : Unit → Walk α) :
    Alike (emit event >>= next) (next ()) := by
  refine ⟨?_, outcome_bind (outcome_emit event) next⟩
  rw [kinds_bind (outcome_emit event)]
  rfl

end Alike

end SqlBinding.Walk
