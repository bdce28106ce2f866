namespace SqlBinding
variable {κ : Type} [DecidableEq κ] {α σ : Type}

/-- The value of the first pair with a key. -/
def valueOf? (pairs : List (κ × α)) (key : κ) : Option α :=
  (pairs.find? fun pair => pair.1 == key).map Prod.snd

theorem exists_valueOf?_iff (pairs : List (κ × α)) (key : κ) :
    (∃ value, valueOf? pairs key = some value) ↔ ∃ value, (key, value) ∈ pairs := by
  constructor
  · intro given
    obtain ⟨_, mapped⟩ := given
    obtain ⟨⟨actual, value⟩, found, rfl⟩ := Option.map_eq_some_iff.mp mapped
    obtain rfl : actual = key := by simpa using List.find?_some found
    exact ⟨value, List.mem_of_find?_eq_some found⟩
  · intro given
    obtain ⟨value, member⟩ := given
    have present : (pairs.find? fun pair => pair.1 == key).isSome :=
      List.find?_isSome.mpr ⟨(key, value), member, beq_self_eq_true _⟩
    obtain ⟨pair, found⟩ := Option.isSome_iff_exists.mp present
    exact ⟨pair.2, by rw [valueOf?, found]; rfl⟩

theorem valueOf?_append (pairs others : List (κ × α)) (key : κ) :
    valueOf? (pairs ++ others) key = (valueOf? pairs key).or (valueOf? others key) := by
  rw [valueOf?, List.find?_append, Option.map_or]
  rfl

theorem valueOf?_cons (first : κ × α) (rest : List (κ × α)) (key : κ) :
    valueOf? (first :: rest) key = if first.1 = key then some first.2 else valueOf? rest key := by
  by_cases same : first.1 = key <;> simp [valueOf?, same]

theorem valueOf?_eq_some_iff {pairs : List (κ × α)} (distinct : (pairs.map Prod.fst).Nodup)
    (key : κ) (value : α) : valueOf? pairs key = some value ↔ (key, value) ∈ pairs := by
  induction pairs with
  | nil => simp [valueOf?]
  | cons first rest ih =>
    obtain ⟨fresh, tail⟩ := List.nodup_cons.mp distinct
    rw [valueOf?_cons, List.mem_cons]
    split
    case isTrue same =>
      subst same
      have absent : (first.1, value) ∉ rest := fun member =>
        fresh (List.mem_map.mpr ⟨_, member, rfl⟩)
      simp [absent, Prod.ext_iff, eq_comm]
    case isFalse different =>
      have apart : (key, value) ≠ first := fun same => different (same ▸ rfl)
      simp [apart, ih tail]

/-- Pairs with different keys may be searched from either end. -/
theorem valueOf?_reverse {pairs : List (κ × α)} (distinct : (pairs.map Prod.fst).Nodup) (key : κ) :
    valueOf? pairs.reverse key = valueOf? pairs key := by
  have reversed : (pairs.reverse.map Prod.fst).Nodup := by
    rw [List.map_reverse]
    exact List.pairwise_reverse.mpr (distinct.imp Ne.symm)
  ext value
  rw [valueOf?_eq_some_iff distinct, valueOf?_eq_some_iff reversed, List.mem_reverse]

/-- From the end the last pair with a key is found. -/
theorem valueOf?_reverse_eq_some_iff (pairs : List (κ × α)) (key : κ) (value : α) :
    valueOf? pairs.reverse key = some value ↔
      ∃ before after, pairs = before ++ (key, value) :: after ∧ key ∉ after.map Prod.fst := by
  constructor
  · intro mapped
    obtain ⟨⟨actual, value⟩, found, rfl⟩ := Option.map_eq_some_iff.mp mapped
    obtain ⟨same, after, before, split, passed⟩ := List.find?_eq_some_iff_append.mp found
    obtain rfl : actual = key := by simpa using same
    refine ⟨before.reverse, after.reverse, by simpa using congrArg List.reverse split, ?_⟩
    intro again
    obtain ⟨pair, member, same⟩ := List.mem_map.mp again
    simpa [same] using passed pair (List.mem_reverse.mp member)
  · intro given
    obtain ⟨before, after, rfl, absent⟩ := given
    have later : valueOf? after.reverse key = none := by
      rw [Option.eq_none_iff_forall_ne_some]
      intro other found
      obtain ⟨_, member⟩ := (exists_valueOf?_iff _ _).mp ⟨other, found⟩
      exact absent (List.mem_map.mpr ⟨_, List.mem_reverse.mp member, rfl⟩)
    rw [List.reverse_append, List.reverse_cons, List.append_assoc, valueOf?_append, later,
      List.singleton_append, valueOf?_cons, if_pos rfl]
    rfl

/-- Other keys in place of the keys, different ones for different keys, lead to the same values. -/
theorem valueOf?_map_key {rename : κ → κ} (injective : Function.Injective rename)
    (pairs : List (κ × α)) (key : κ) :
    valueOf? (pairs.map fun pair => (rename pair.1, pair.2)) (rename key) = valueOf? pairs key := by
  induction pairs with
  | nil => rfl
  | cons first rest ih =>
    have same : rename first.1 = rename key ↔ first.1 = key := ⟨@injective _ _, congrArg rename⟩
    simp only [List.map_cons, valueOf?_cons, same, ih]

/-- Inserting pairs one after the other, where inserting sets the value of one key: the last pair with
a key counts, and without one the value from before. -/
theorem foldl_insert {get? : σ → κ → Option α} {insert : σ → κ → α → σ}
    (law : ∀ store key value other,
      get? (insert store key value) other = if key = other then some value else get? store other)
    (pairs : List (κ × α)) (store : σ) (key : κ) :
    get? (pairs.foldl (fun store pair => insert store pair.1 pair.2) store) key =
      (valueOf? pairs.reverse key).or (get? store key) := by
  induction pairs generalizing store with
  | nil => rfl
  | cons first rest ih =>
    rw [List.foldl_cons, ih, law, List.reverse_cons, valueOf?_append, Option.or_assoc]
    by_cases same : first.1 = key <;> simp [valueOf?, same]

end SqlBinding
