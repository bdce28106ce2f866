import SqlBinding.Operand

namespace SqlBinding

/-- An expression without the parentheses around it. -/
def Expr.bare : Expr → Expr
  | .nested inner => inner.bare
  | expr => expr

/-- A string or a number as the key of a field access. -/
inductive JsonKey : Expr → String → Prop where
  | string (bare : expr.bare = .literal (.string text)) : JsonKey expr text
  | number (bare : expr.bare = .literal (.number text long)) : JsonKey expr text

/-- A chain of field accesses on a column reference, with its keys from left to right. The last
operator decides whether the value is taken as text. -/
inductive JsonChain : Expr → Name → List String → Bool → Prop where
  | first (bare : expr.bare = .binary op left right) (access : op.jsonAccess? = some asText)
      (key : JsonKey right text) (column : left.bare = .column parts) :
      JsonChain expr parts [text] asText
  | next (bare : expr.bare = .binary op left right) (access : op.jsonAccess? = some asText)
      (key : JsonKey right text) (chain : JsonChain left parts keys earlier) :
      JsonChain expr parts (keys ++ [text]) asText

/-- The accessor of a chain: its keys with dots in between. -/
def JsonAccessor.ofKeys (keys : List String) (asText : Bool) : JsonAccessor :=
  ⟨".".intercalate keys, asText⟩

theorem Expr.bare_ne_nested (expr inner : Expr) : expr.bare ≠ .nested inner := by
  fun_induction Expr.bare expr with
  | case1 enclosed ih => exact ih
  | case2 expr plain => exact plain inner

theorem jsonKey?_eq_some_iff (expr : Expr) (text : String) :
    expr.jsonKey? = some text ↔ JsonKey expr text := by
  have same : expr.jsonKey? = expr.bare.jsonKey? := by
    fun_induction Expr.bare expr with
    | case1 inner ih => simpa [Expr.jsonKey?] using ih
    | case2 expr plain => rfl
  rw [same]
  constructor
  · intro found
    generalize form : expr.bare = bare at found
    fun_cases Expr.jsonKey? bare with
    | case1 inner => exact absurd form (expr.bare_ne_nested inner)
    | case2 written =>
      obtain rfl : written = text := by simpa [Expr.jsonKey?] using found
      exact .string form
    | case3 written long =>
      obtain rfl : written = text := by simpa [Expr.jsonKey?] using found
      exact .number form
    | case4 => simp_all [Expr.jsonKey?]
  · rintro (⟨bare⟩ | ⟨bare⟩) <;> simp [bare, Expr.jsonKey?]

theorem JsonChain.keys_ne_nil (chain : JsonChain expr parts keys asText) : keys ≠ [] := by
  cases chain <;> simp

/-- Parentheses around a chain do not count. -/
theorem JsonChain.congr_bare (chain : JsonChain expr parts keys asText)
    (same : expr.bare = other.bare) : JsonChain other parts keys asText := by
  cases chain with
  | first bare access key column => exact .first (same ▸ bare) access key column
  | next bare access key chain => exact .next (same ▸ bare) access key chain

namespace Operand

/-- What an expression is as an operand, told by what its parentheses enclose. -/
inductive Form (expr : Expr) : Operand → Prop where
  | column (bare : expr.bare = .column parts) : Form expr (.column parts)
  | param (bare : expr.bare = .literal (.placeholder text))
      (numbered : Param.ofText? text = some ordinal) : Form expr (.param ordinal)
  | placeholder (bare : expr.bare = .literal (.placeholder text))
      (unnumbered : Param.ofText? text = none) : Form expr (.placeholder text)
  | json (chain : JsonChain expr parts keys asText) :
      Form expr (.json parts (.ofKeys keys asText))
  | subquery (bare : expr.bare = .subquery query) : Form expr (.subquery query)
  | other : Form expr .other

private theorem Form.congr_bare {expr enclosed : Expr} (form : Form expr operand)
    (same : expr.bare = enclosed.bare) : Form enclosed operand := by
  cases form with
  | column bare => exact .column (same ▸ bare)
  | param bare numbered => exact .param (same ▸ bare) numbered
  | placeholder bare unnumbered => exact .placeholder (same ▸ bare) unnumbered
  | json chain => exact .json (chain.congr_bare same)
  | subquery bare => exact .subquery (same ▸ bare)
  | other => exact .other

private theorem access_json_ofKeys (parts : Name) (present : keys ≠ []) (earlier : Bool) :
    access (.json parts (.ofKeys keys earlier)) text asText =
      .json parts (.ofKeys (keys ++ [text]) asText) := by
  simp only [access, JsonAccessor.ofKeys]
  rw [String.intercalate_append_of_ne_nil present (List.cons_ne_nil _ _),
    String.intercalate_singleton]

private theorem Form.access {expr base right : Expr} (left : Form base operand)
    (bare : expr.bare = .binary op base right) (accessed : op.jsonAccess? = some asText)
    (key : JsonKey right text) : Form expr (operand.access text asText) := by
  cases left with
  | column column => exact .json (.first bare accessed key column)
  | @json parts keys earlier chain =>
    rw [access_json_ofKeys parts chain.keys_ne_nil]
    exact .json (.next bare accessed key chain)
  | _ => exact .other

theorem form (expr : Expr) : Form expr (of expr) := by
  fun_induction of expr with
  | case1 inner ih => exact ih.congr_bare (by simp [Expr.bare])
  | case2 parts => exact .column rfl
  | case3 text =>
    unfold ofPlaceholder
    split
    case h_1 ordinal numbered => exact .param rfl numbered
    case h_2 unnumbered => exact .placeholder rfl unnumbered
  | case4 query => exact .subquery rfl
  | case5 op left right asText key found accessed ih =>
    exact ih.access rfl accessed ((jsonKey?_eq_some_iff right key).mp found)
  | case6 => exact .other
  | case7 => exact .other

theorem of_bare (expr : Expr) : of expr.bare = of expr := by
  fun_induction Expr.bare expr with
  | case1 inner ih => simpa [of] using ih
  | case2 expr plain => rfl

theorem of_eq_column_iff {expr : Expr} : of expr = .column parts ↔ expr.bare = .column parts := by
  constructor
  · intro same
    have shape := same ▸ form expr
    cases shape with
    | column bare => exact bare
  · intro bare
    rw [← of_bare, bare]
    rfl

theorem of_eq_param_iff {expr : Expr} :
    of expr = .param ordinal ↔
      ∃ text, expr.bare = .literal (.placeholder text) ∧ Param.ofText? text = some ordinal := by
  constructor
  · intro same
    have shape := same ▸ form expr
    cases shape with
    | param bare numbered => exact ⟨_, bare, numbered⟩
  · intro given
    obtain ⟨text, bare, numbered⟩ := given
    rw [← of_bare, bare, of, ofPlaceholder, numbered]

theorem of_eq_placeholder_iff {expr : Expr} :
    of expr = .placeholder text ↔
      expr.bare = .literal (.placeholder text) ∧ Param.ofText? text = none := by
  constructor
  · intro same
    have shape := same ▸ form expr
    cases shape with
    | placeholder bare unnumbered => exact ⟨bare, unnumbered⟩
  · intro given
    obtain ⟨bare, unnumbered⟩ := given
    rw [← of_bare, bare, of, ofPlaceholder, unnumbered]

theorem of_eq_subquery_iff {expr : Expr} :
    of expr = .subquery query ↔ expr.bare = .subquery query := by
  constructor
  · intro same
    have shape := same ▸ form expr
    cases shape with
    | subquery bare => exact bare
  · intro bare
    rw [← of_bare, bare]
    rfl

theorem of_jsonChain (chain : JsonChain expr parts keys asText) :
    of expr = .json parts (.ofKeys keys asText) := by
  induction chain with
  | first bare accessed key column =>
    rw [← of_bare, bare, of, accessed, (jsonKey?_eq_some_iff _ _).mpr key,
      of_eq_column_iff.mpr column]
    rfl
  | next bare accessed key chain ih =>
    rw [← of_bare, bare, of, accessed, (jsonKey?_eq_some_iff _ _).mpr key]
    simp only [ih]
    exact access_json_ofKeys _ chain.keys_ne_nil _

theorem of_eq_json_iff {expr : Expr} :
    of expr = .json parts accessor ↔
      ∃ keys asText, JsonChain expr parts keys asText ∧ accessor = .ofKeys keys asText := by
  constructor
  · intro same
    have shape := same ▸ form expr
    cases shape with
    | json chain => exact ⟨_, _, chain, rfl⟩
  · intro given
    obtain ⟨keys, asText, chain, rfl⟩ := given
    exact of_jsonChain chain

end Operand

/-- An ordinal placeholder, perhaps in parentheses. -/
def Expr.IsOrdinal (expr : Expr) : Prop :=
  ∃ text param, expr.bare = .literal (.placeholder text) ∧ Param.ofText? text = some param

theorem Expr.isOrdinal_iff (expr : Expr) :
    expr.IsOrdinal ↔ ∃ param, Operand.of expr = .param param := by
  simp only [IsOrdinal, Operand.of_eq_param_iff]
  exact exists_comm

end SqlBinding
