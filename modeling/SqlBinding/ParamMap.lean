import SqlBinding.Param

/-! Values kept by parameter, in ascending order of the ordinals. Inserting a parameter that is
present replaces its value, so of several bindings the last one stays.
-/

namespace SqlBinding

/-- Entries with strictly ascending ordinals. -/
def Ascending {α : Type} (entries : List (Param × α)) : Prop :=
  entries.Pairwise fun earlier later => earlier.1.number < later.1.number

structure ParamMap (α : Type) where
  entries : List (Param × α)
  ascending : Ascending entries

namespace ParamMap
variable {α : Type}

/-- Puts a value at its place among ascending entries. -/
def place (param : Param) (value : α) : List (Param × α) → List (Param × α)
  | [] => [(param, value)]
  | entry :: rest =>
    if param.number < entry.1.number then (param, value) :: entry :: rest
    else if entry.1.number < param.number then entry :: place param value rest
    else (param, value) :: rest

theorem mem_place {param : Param} {value : α} {entries : List (Param × α)} {entry : Param × α}
    (member : entry ∈ place param value entries) : entry = (param, value) ∨ entry ∈ entries := by
  induction entries with
  | nil => exact .inl (List.mem_singleton.mp member)
  | cons first rest ih =>
    simp only [place] at member
    split at member
    · exact List.mem_cons.mp member
    · split at member
      · rcases List.mem_cons.mp member with same | later
        · exact .inr (List.mem_cons.mpr (.inl same))
        · exact (ih later).imp_right (List.mem_cons_of_mem first)
      · exact (List.mem_cons.mp member).imp_right (List.mem_cons_of_mem first)

theorem place_ascending {entries : List (Param × α)} (param : Param) (value : α)
    (ascending : Ascending entries) : Ascending (place param value entries) := by
  induction entries with
  | nil => exact List.pairwise_singleton _ _
  | cons first rest ih =>
    have ⟨above, tail⟩ := List.pairwise_cons.mp ascending
    simp only [place]
    split
    case isTrue below =>
      refine List.pairwise_cons.mpr ⟨?_, ascending⟩
      intro entry member
      rcases List.mem_cons.mp member with same | later
      · exact same ▸ below
      · exact Nat.lt_trans below (above entry later)
    case isFalse notBelow =>
      split
      case isTrue after =>
        refine List.pairwise_cons.mpr ⟨?_, ih tail⟩
        intro entry member
        rcases mem_place member with same | later
        · exact same ▸ after
        · exact above entry later
      case isFalse notAfter =>
        have same : param.number = first.1.number :=
          Nat.le_antisymm (Nat.le_of_not_lt notAfter) (Nat.le_of_not_lt notBelow)
        exact List.pairwise_cons.mpr ⟨fun entry later => same ▸ above entry later, tail⟩

def empty : ParamMap α := ⟨[], List.Pairwise.nil⟩

def insert (map : ParamMap α) (param : Param) (value : α) : ParamMap α :=
  ⟨place param value map.entries, place_ascending param value map.ascending⟩

/-- Inserts the pairs in order, so a later pair wins over an earlier one of the same parameter. -/
def ofList (pairs : List (Param × α)) : ParamMap α :=
  pairs.foldl (fun map pair => map.insert pair.1 pair.2) empty

def get? (map : ParamMap α) (param : Param) : Option α :=
  (map.entries.find? fun entry => entry.1 == param).map Prod.snd

def keys (map : ParamMap α) : List Param := map.entries.map Prod.fst

def contains (map : ParamMap α) (param : Param) : Bool := map.keys.contains param

def size (map : ParamMap α) : Nat := map.entries.length

end ParamMap

/-- A set of parameters, listed in ascending order. -/
abbrev ParamSet := ParamMap Unit

namespace ParamSet

def ofList (params : List Param) : ParamSet := ParamMap.ofList (params.map fun param => (param, ()))

def toList (set : ParamSet) : List Param := set.keys

end ParamSet
end SqlBinding
