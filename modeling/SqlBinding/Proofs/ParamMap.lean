import SqlBinding.ParamMap
import SqlBinding.Proofs.Keyed

namespace SqlBinding

namespace ParamMap
variable {α : Type}

@[simp] theorem get?_empty (param : Param) : (empty : ParamMap α).get? param = none := rfl

private theorem valueOf?_place (param other : Param) (value : α) (entries : List (Param × α)) :
    valueOf? (place param value entries) other =
      if param = other then some value else valueOf? entries other := by
  induction entries with
  | nil => exact valueOf?_cons (param, value) [] other
  | cons first rest ih =>
    simp only [place]
    split
    case isTrue below => exact valueOf?_cons (param, value) (first :: rest) other
    case isFalse notBelow =>
      split
      case isTrue after =>
        have different : first.1 ≠ param := fun same => Nat.lt_irrefl _ (same ▸ after)
        rw [valueOf?_cons, valueOf?_cons, ih]
        by_cases found : first.1 = other
        · have apart : param ≠ other := fun same => different (found.trans same.symm)
          simp [found, apart]
        · simp [found]
      case isFalse notAfter =>
        have same : first.1 = param := Param.ext (by omega)
        rw [valueOf?_cons, valueOf?_cons, same]
        split <;> rfl

theorem get?_insert (map : ParamMap α) (param : Param) (value : α) (other : Param) :
    (map.insert param value).get? other = if param = other then some value else map.get? other :=
  valueOf?_place param other value map.entries

theorem mem_keys_iff (map : ParamMap α) (param : Param) :
    param ∈ map.keys ↔ ∃ value, map.get? param = some value := by
  refine Iff.trans ?_ (exists_valueOf?_iff map.entries param).symm
  simp [keys]

theorem contains_iff (map : ParamMap α) (param : Param) :
    map.contains param = true ↔ param ∈ map.keys := by
  simp [contains]

/-- Of several pairs of a parameter the last one counts. -/
theorem get?_ofList (pairs : List (Param × α)) (param : Param) :
    (ofList pairs).get? param = valueOf? pairs.reverse param := by
  rw [ofList, foldl_insert get?_insert, get?_empty, Option.or_none]

theorem get?_ofList_eq_some_iff (pairs : List (Param × α)) (param : Param) (value : α) :
    (ofList pairs).get? param = some value ↔
      ∃ before after, pairs = before ++ (param, value) :: after ∧ ∀ pair ∈ after, pair.1 ≠ param := by
  rw [get?_ofList, valueOf?_reverse_eq_some_iff]
  simp only [List.mem_map, not_exists, not_and, ne_eq]

theorem mem_keys_ofList (pairs : List (Param × α)) (param : Param) :
    param ∈ (ofList pairs).keys ↔ ∃ value, (param, value) ∈ pairs := by
  simp only [mem_keys_iff, get?_ofList, exists_valueOf?_iff, List.mem_reverse]

theorem nodup_keys (map : ParamMap α) : map.keys.Nodup := by
  apply List.pairwise_map.mpr
  apply map.ascending.imp
  intro earlier later below same
  rw [same] at below
  exact Nat.lt_irrefl _ below

theorem get?_eq_some_iff (map : ParamMap α) (param : Param) (value : α) :
    map.get? param = some value ↔ (param, value) ∈ map.entries :=
  valueOf?_eq_some_iff map.nodup_keys param value

/-- A map is determined by its look-ups, since its entries can be listed in one order only. -/
theorem ext_get? {first second : ParamMap α}
    (same : ∀ param, first.get? param = second.get? param) : first = second := by
  have listedOnce (map : ParamMap α) : map.entries.Nodup :=
    (List.pairwise_map.mp map.nodup_keys).imp fun different equal =>
      different (congrArg Prod.fst equal)
  have permuted : first.entries.Perm second.entries := by
    apply (List.perm_ext_iff_of_nodup (listedOnce first) (listedOnce second)).mpr
    rintro ⟨param, value⟩
    rw [← get?_eq_some_iff, ← get?_eq_some_iff, same param]
  have listed : first.entries = second.entries := by
    apply permuted.eq_of_pairwise _ first.ascending second.ascending
    intro entry other _ _ below above
    exact absurd (Nat.lt_trans below above) (Nat.lt_irrefl _)
  cases first
  cases second
  subst listed
  rfl

/-- A map with the entries of another one put in, which replace the values that are there. -/
def merge (map other : ParamMap α) : ParamMap α :=
  other.entries.foldl (fun merged entry => merged.insert entry.1 entry.2) map

theorem get?_merge (map other : ParamMap α) (param : Param) :
    (map.merge other).get? param = (other.get? param).or (map.get? param) := by
  rw [merge, foldl_insert get?_insert, valueOf?_reverse other.nodup_keys]
  rfl

/-- Pairs that are inserted behind others might as well be made a map of their own and merged. -/
theorem ofList_append (pairs others : List (Param × α)) :
    ofList (pairs ++ others) = (ofList pairs).merge (ofList others) := by
  apply ext_get?
  intro param
  rw [get?_merge, get?_ofList, get?_ofList, get?_ofList, List.reverse_append, valueOf?_append]

end ParamMap

theorem ParamSet.mem_ofList (params : List Param) (param : Param) :
    param ∈ (ofList params).toList ↔ param ∈ params := by
  simp [toList, ofList, ParamMap.mem_keys_ofList]

end SqlBinding
