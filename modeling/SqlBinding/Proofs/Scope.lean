import SqlBinding.Scope
import SqlBinding.Proofs.Keyed

namespace SqlBinding

private theorem valueOf?_upsert (name other : String) (relation : Relation)
    (entries : List (String × Relation)) :
    valueOf? (upsert name relation entries) other =
      if name = other then some relation else valueOf? entries other := by
  induction entries with
  | nil => exact valueOf?_cons (name, relation) [] other
  | cons first rest ih =>
    simp only [upsert]
    split
    case isTrue same =>
      rw [valueOf?_cons, valueOf?_cons, same]
      split <;> rfl
    case isFalse different =>
      rw [valueOf?_cons, valueOf?_cons, ih]
      by_cases found : first.1 = other
      · have apart : name ≠ other := fun same => different (found.trans same.symm)
        simp [found, apart]
      · simp [found]

private theorem upsert_upsert (name : String) (relation earlier : Relation)
    (entries : List (String × Relation)) :
    upsert name relation (upsert name earlier entries) = upsert name relation entries := by
  induction entries with
  | nil => simp [upsert]
  | cons entry rest ih =>
    by_cases same : entry.1 = name
    · simp [upsert, same]
    · simp [upsert, same, ih]

/-- A name that is present keeps its place, so declaring it again may be put off. -/
private theorem upsert_comm {name other : String} (relation given : Relation)
    {entries : List (String × Relation)} (present : name ∈ entries.map Prod.fst)
    (different : other ≠ name) :
    upsert other given (upsert name relation entries) =
      upsert name relation (upsert other given entries) := by
  induction entries with
  | nil => simp at present
  | cons entry rest ih =>
    by_cases same : entry.1 = name
    · simp [upsert, same, different.symm]
    · have later : name ∈ rest.map Prod.fst := by simpa [Ne.symm same] using present
      by_cases found : entry.1 = other
      · simp [upsert, found, different]
      · simp [upsert, same, found, ih later]

private theorem upsert_of_fresh {name : String} (relation : Relation)
    {entries : List (String × Relation)} (fresh : name ∉ entries.map Prod.fst) :
    upsert name relation entries = entries ++ [(name, relation)] := by
  induction entries with
  | nil => rfl
  | cons entry rest ih =>
    have different : entry.1 ≠ name := Ne.symm (List.ne_of_not_mem_cons fresh)
    have others : name ∉ rest.map Prod.fst := List.not_mem_of_not_mem_cons fresh
    rw [upsert, if_neg different, ih others, List.cons_append]

private theorem upsert_of_mem {entries : List (String × Relation)}
    (distinct : (entries.map Prod.fst).Nodup) (member : (name, relation) ∈ entries) :
    upsert name relation entries = entries := by
  induction entries with
  | nil => cases member
  | cons entry rest ih =>
    obtain ⟨fresh, tail⟩ := List.nodup_cons.mp distinct
    rcases List.mem_cons.mp member with here | later
    · rw [upsert, ← here, if_pos rfl]
    · have different : entry.1 ≠ name := by
        intro same
        exact fresh (List.mem_map.mpr ⟨_, later, same.symm⟩)
      rw [upsert, if_neg different, ih tail later]

/-- A known name keeps its place, and a new one goes behind all others. -/
theorem names_upsert (name : String) (relation : Relation) (entries : List (String × Relation)) :
    (upsert name relation entries).map Prod.fst =
      entries.map Prod.fst ++ if name ∈ entries.map Prod.fst then [] else [name] := by
  induction entries with
  | nil => rfl
  | cons entry rest ih =>
    by_cases same : entry.1 = name
    · simp [upsert, same]
    · have known : name ∈ (entry :: rest).map Prod.fst ↔ name ∈ rest.map Prod.fst := by
        simp [Ne.symm same]
      simp only [upsert, same, ↓reduceIte, known]
      exact congrArg (entry.1 :: ·) ih

namespace Scope

private theorem ext {first second : Scope} (same : first.entries = second.entries) :
    first = second := by
  cases first
  cases second
  simp_all

private theorem declare_insert {name : String} (scope : Scope) (relation : Relation)
    {declarations : List (String × Relation)} (present : name ∈ scope.entries.map Prod.fst)
    (absent : name ∉ declarations.map Prod.fst) :
    (scope.insert name relation).declare declarations =
      (scope.declare declarations).insert name relation := by
  induction declarations generalizing scope with
  | nil => rfl
  | cons first rest ih =>
    obtain ⟨different, others⟩ : name ≠ first.1 ∧ name ∉ rest.map Prod.fst := by
      simpa using absent
    have swapped : (scope.insert name relation).insert first.1 first.2 =
        (scope.insert first.1 first.2).insert name relation :=
      ext (upsert_comm relation first.2 present different.symm)
    have kept : name ∈ (scope.insert first.1 first.2).entries.map Prod.fst :=
      mem_upsert_names.mpr (.inr present)
    exact (congrArg (declare · rest) swapped).trans (ih (scope.insert first.1 first.2) kept others)

private theorem declare_upsert (scope : Scope) (name : String) (relation : Relation)
    {declarations : List (String × Relation)} (distinct : (declarations.map Prod.fst).Nodup) :
    scope.declare (upsert name relation declarations) =
      (scope.declare declarations).insert name relation := by
  induction declarations generalizing scope with
  | nil => rfl
  | cons first rest ih =>
    obtain ⟨fresh, tail⟩ := List.nodup_cons.mp distinct
    by_cases same : first.1 = name
    · have again : (scope.insert first.1 first.2).insert name relation =
          scope.insert name relation := by
        rw [same]
        exact ext (upsert_upsert name relation first.2 scope.entries)
      have present : name ∈ (scope.insert first.1 first.2).entries.map Prod.fst :=
        mem_upsert_names.mpr (.inl same.symm)
      rw [upsert, if_pos same]
      change (scope.insert name relation).declare rest =
        ((scope.insert first.1 first.2).declare rest).insert name relation
      rw [← declare_insert _ relation present (same ▸ fresh), again]
    · rw [upsert, if_neg same]
      exact ih (scope.insert first.1 first.2) tail

theorem declare_append (scope : Scope) (declarations others : List (String × Relation)) :
    scope.declare (declarations ++ others) = (scope.declare declarations).declare others :=
  List.foldl_append

/-- What is declared in a scope that is merged on top may as well be declared after merging. -/
theorem merge_declare (scope other : Scope) (declarations : List (String × Relation)) :
    scope.merge (other.declare declarations) = (scope.merge other).declare declarations := by
  induction declarations generalizing other with
  | nil => rfl
  | cons first rest ih =>
    refine (ih (other.insert first.1 first.2)).trans (congrArg (declare · rest) ?_)
    exact declare_upsert scope first.1 first.2 other.distinct

private theorem entries_declare_of_fresh {scope : Scope} {declarations : List (String × Relation)}
    (distinct : (declarations.map Prod.fst).Nodup)
    (fresh : ∀ name ∈ declarations.map Prod.fst, name ∉ scope.entries.map Prod.fst) :
    (scope.declare declarations).entries = scope.entries ++ declarations := by
  induction declarations generalizing scope with
  | nil => exact (List.append_nil _).symm
  | cons first rest ih =>
    obtain ⟨apart, tail⟩ := List.nodup_cons.mp distinct
    obtain ⟨own, others⟩ := List.forall_mem_cons.mp fresh
    have inserted : (scope.insert first.1 first.2).entries = scope.entries ++ [first] :=
      upsert_of_fresh first.2 own
    have alsoFresh : ∀ name ∈ rest.map Prod.fst,
        name ∉ (scope.insert first.1 first.2).entries.map Prod.fst := by
      intro name member known
      rcases mem_upsert_names.mp known with same | earlier
      · exact apart (same ▸ member)
      · exact others name member earlier
    refine (ih tail alsoFresh).trans ?_
    rw [inserted, List.append_assoc, List.singleton_append]

/-- Declaring entries again changes nothing. -/
private theorem declare_of_subset {scope : Scope} {declarations : List (String × Relation)}
    (listed : declarations ⊆ scope.entries) : scope.declare declarations = scope := by
  induction declarations with
  | nil => rfl
  | cons first rest ih =>
    obtain ⟨own, others⟩ := List.cons_subset.mp listed
    have same : scope.insert first.1 first.2 = scope := ext (upsert_of_mem scope.distinct own)
    exact (congrArg (declare · rest) same).trans (ih others)

theorem merge_assoc (first second third : Scope) :
    (first.merge second).merge third = first.merge (second.merge third) :=
  (merge_declare first second third.entries).symm

theorem merge_empty (scope : Scope) : scope.merge empty = scope := rfl

theorem empty_merge (scope : Scope) : empty.merge scope = scope :=
  ext (entries_declare_of_fresh scope.distinct fun _ _ => List.not_mem_nil)

theorem merge_self (scope : Scope) : scope.merge scope = scope :=
  declare_of_subset (List.Subset.refl _)

@[simp] theorem get?_empty (name : String) : empty.get? name = none := rfl

theorem get?_insert (scope : Scope) (name : String) (relation : Relation) (other : String) :
    (scope.insert name relation).get? other =
      if name = other then some relation else scope.get? other :=
  valueOf?_upsert name other relation scope.entries

/-- The last declaration of a name counts. -/
theorem get?_declare (scope : Scope) (declarations : List (String × Relation)) (name : String) :
    (scope.declare declarations).get? name =
      (valueOf? declarations.reverse name).or (scope.get? name) :=
  foldl_insert get?_insert declarations scope name

/-- In a scope with another on top, the other one is asked first. -/
theorem get?_merge (scope other : Scope) (name : String) :
    (scope.merge other).get? name = (other.get? name).or (scope.get? name) := by
  rw [merge, get?_declare, valueOf?_reverse other.distinct]
  rfl

/-- Exactly one name is in scope. -/
def Only (scope : Scope) (name : String) : Prop :=
  ∀ other, (∃ relation, scope.get? other = some relation) ↔ other = name

theorem only_iff (scope : Scope) (name : String) :
    scope.Only name ↔ ∃ relation, scope.entries = [(name, relation)] := by
  constructor
  · intro only
    have names (entry) (member : entry ∈ scope.entries) : entry.1 = name := by
      refine (only entry.1).mp ?_
      exact (exists_valueOf?_iff scope.entries entry.1).mpr ⟨entry.2, member⟩
    obtain ⟨relation, present⟩ := (exists_valueOf?_iff scope.entries name).mp ((only name).mpr rfl)
    have distinct := scope.distinct
    match form : scope.entries with
    | [] => simp [form] at present
    | [entry] =>
      obtain rfl : (name, relation) = entry := by simpa [form] using present
      exact ⟨relation, rfl⟩
    | first :: second :: rest =>
      have firstNamed := names first (by simp [form])
      have secondNamed := names second (by simp [form])
      simp [form, firstNamed, secondNamed] at distinct
  · rintro ⟨relation, single⟩ other
    refine (exists_valueOf?_iff scope.entries other).trans ?_
    simp [single]

theorem unqualified_of_only {scope : Scope} (only : scope.Only name)
    (here : scope.get? name = some relation) : scope.unqualified = relation := by
  obtain ⟨actual, single⟩ := (scope.only_iff name).mp only
  have same : actual = relation := by simpa [get?, single] using here
  rw [unqualified, single]
  exact same

theorem unqualified_of_not_only {scope : Scope} (several : ∀ name, ¬ scope.Only name) :
    scope.unqualified = (scope.get? "").getD .notFound := by
  unfold unqualified
  split
  case h_1 name relation single => exact absurd ((scope.only_iff name).mpr ⟨_, single⟩) (several name)
  case h_2 => rfl

end Scope
end SqlBinding
