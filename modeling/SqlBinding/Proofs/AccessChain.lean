import Mathlib.Data.List.Induction
import SqlBinding.Proofs.Parentheses

namespace SqlBinding

/-- The key of a field access: a string or a number. -/
inductive FieldKey where
  | string (text : String)
  | number (text : String) (long : Bool)

namespace FieldKey

def literal : FieldKey → Literal
  | .string text => .string text
  | .number text long => .number text long

def text : FieldKey → String
  | .string text => text
  | .number text _ => text

end FieldKey

structure FieldAccess where
  /-- Whether the operator is `->>`, and not `->`. -/
  asText : Bool
  key : FieldKey

namespace FieldAccess

def op (access : FieldAccess) : Operator := if access.asText then .longArrow else .arrow

/-- An access to what stands on its left. -/
def on (access : FieldAccess) (left : Expr) : Expr :=
  .binary access.op left (.literal access.key.literal)

theorem jsonAccess?_op (access : FieldAccess) : access.op.jsonAccess? = some access.asText := by
  cases known : access.asText <;> simp [op, known, Operator.jsonAccess?]

theorem op_eq_longArrow_iff (access : FieldAccess) : access.op = .longArrow ↔ access.asText = true := by
  cases known : access.asText <;> simp [op, known]

end FieldAccess

/-- A column reference with field accesses behind it, from left to right and without parentheses. -/
def Expr.ofAccesses (column : Name) (accesses : List FieldAccess) : Expr :=
  accesses.foldl (fun left access => access.on left) (.column column)

theorem Expr.ofAccesses_concat (column : Name) (accesses : List FieldAccess) (last : FieldAccess) :
    Expr.ofAccesses column (accesses ++ [last]) = last.on (Expr.ofAccesses column accesses) :=
  List.foldl_append

theorem Operator.eq_op_of_jsonAccess? {op : Operator} (accessed : op.jsonAccess? = some asText)
    (key : FieldKey) : op = FieldAccess.op ⟨asText, key⟩ := by
  cases op with
  | arrow =>
    obtain rfl := Option.some.inj accessed
    rfl
  | longArrow =>
    obtain rfl := Option.some.inj accessed
    rfl
  | symbol text => cases accessed
  | quantified symbol quantifier => cases accessed

namespace Expr

theorem strip_bare (expr : Expr) : expr.bare.strip = expr.strip := by
  fun_induction Expr.bare expr with
  | case1 inner ih => rw [ih, Expr.strip]
  | case2 expr plain => rfl

theorem strip_eq_column_iff (expr : Expr) : expr.strip = .column parts ↔ expr.bare = .column parts := by
  have plain := expr.bare_ne_nested
  rw [← strip_bare]
  cases form : expr.bare with
  | nested inner => exact absurd form (plain inner)
  | _ => simp [Expr.strip]

theorem strip_eq_literal_iff (expr : Expr) : expr.strip = .literal value ↔ expr.bare = .literal value := by
  have plain := expr.bare_ne_nested
  rw [← strip_bare]
  cases form : expr.bare with
  | nested inner => exact absurd form (plain inner)
  | _ => simp [Expr.strip]

theorem strip_eq_binary_iff (expr first second : Expr) :
    expr.strip = .binary op first second ↔
      ∃ left right, expr.bare = .binary op left right ∧ left.strip = first ∧ right.strip = second := by
  have plain := expr.bare_ne_nested
  rw [← strip_bare]
  cases form : expr.bare with
  | nested inner => exact absurd form (plain inner)
  | _ => simp [Expr.strip]

end Expr

theorem jsonKey_iff (expr : Expr) (text : String) :
    JsonKey expr text ↔ ∃ key : FieldKey, expr.strip = .literal key.literal ∧ key.text = text := by
  constructor
  · intro key
    cases key with
    | string bare => exact ⟨.string text, expr.strip_eq_literal_iff.mpr bare, rfl⟩
    | @number long bare => exact ⟨.number text long, expr.strip_eq_literal_iff.mpr bare, rfl⟩
  · intro given
    obtain ⟨key, stripped, rfl⟩ := given
    have bare := expr.strip_eq_literal_iff.mp stripped
    cases key with
    | string text => exact .string bare
    | number text long => exact .number bare

/-- One more access, read off the operator and the key. -/
private theorem exists_access {expr left right : Expr} (bare : expr.bare = .binary op left right)
    (accessed : op.jsonAccess? = some asText) (key : JsonKey right text) :
    ∃ access : FieldAccess, expr.strip = access.on left.strip ∧ access.key.text = text ∧
      access.asText = asText := by
  obtain ⟨written, stripped, rfl⟩ := (jsonKey_iff right text).mp key
  refine ⟨⟨asText, written⟩, ?_, rfl, rfl⟩
  rw [Operator.eq_op_of_jsonAccess? accessed written] at bare
  exact (expr.strip_eq_binary_iff _ _).mpr ⟨left, right, bare, rfl, stripped⟩

theorem JsonChain.exists_accesses (chain : JsonChain expr parts keys asText) :
    ∃ accesses last, expr.strip = .ofAccesses parts (accesses ++ [last]) ∧
      keys = (accesses ++ [last]).map (fun access => access.key.text) ∧ asText = last.asText := by
  induction chain with
  | first bare accessed key column =>
    obtain ⟨access, stripped, rfl, rfl⟩ := exists_access bare accessed key
    rw [(Expr.strip_eq_column_iff _).mpr column] at stripped
    exact ⟨[], access, stripped, rfl, rfl⟩
  | next bare accessed key chain ih =>
    obtain ⟨access, stripped, rfl, rfl⟩ := exists_access bare accessed key
    obtain ⟨earlier, previous, left, rfl, -⟩ := ih
    rw [left, ← Expr.ofAccesses_concat] at stripped
    exact ⟨earlier ++ [previous], access, stripped, by simp, rfl⟩

theorem jsonChain_of_accesses {expr : Expr} (accesses : List FieldAccess) (last : FieldAccess)
    (stripped : expr.strip = .ofAccesses parts (accesses ++ [last])) :
    JsonChain expr parts ((accesses ++ [last]).map fun access => access.key.text) last.asText := by
  induction accesses using List.reverseRecOn generalizing expr last with
  | nil =>
    obtain ⟨left, right, bare, base, key⟩ := (expr.strip_eq_binary_iff _ _).mp stripped
    exact .first bare last.jsonAccess?_op ((jsonKey_iff _ _).mpr ⟨last.key, key, rfl⟩)
      (left.strip_eq_column_iff.mp base)
  | append_singleton earlier previous ih =>
    rw [Expr.ofAccesses_concat] at stripped
    obtain ⟨left, right, bare, base, key⟩ := (expr.strip_eq_binary_iff _ _).mp stripped
    rw [List.map_append]
    exact .next bare last.jsonAccess?_op ((jsonKey_iff _ _).mpr ⟨last.key, key, rfl⟩)
      (ih previous base)

/-- An expression is taken for a JSON field of a column reference exactly if, without its parentheses,
it is that reference with one or more field accesses behind it. The path is made of the texts of the keys
from left to right, and the last operator alone decides whether the value is taken as text. -/
theorem Operand.of_eq_json_iff_accesses (expr : Expr) (column : Name) (accessor : JsonAccessor) :
    Operand.of expr = .json column accessor ↔
      ∃ (accesses : List FieldAccess) (last : FieldAccess),
        expr.strip = .ofAccesses column (accesses ++ [last]) ∧
        accessor.path = ".".intercalate ((accesses ++ [last]).map fun access => access.key.text) ∧
        (accessor.asText = true ↔ last.op = .longArrow) := by
  rw [Operand.of_eq_json_iff]
  constructor
  · intro given
    obtain ⟨keys, asText, chain, rfl⟩ := given
    obtain ⟨accesses, last, stripped, rfl, rfl⟩ := chain.exists_accesses
    exact ⟨accesses, last, stripped, rfl, last.op_eq_longArrow_iff.symm⟩
  · intro given
    obtain ⟨accesses, last, stripped, path, decided⟩ := given
    refine ⟨_, _, jsonChain_of_accesses accesses last stripped, ?_⟩
    have asText : accessor.asText = last.asText := by
      rw [Bool.eq_iff_iff, decided, last.op_eq_longArrow_iff]
    obtain ⟨given, taken⟩ := accessor
    obtain rfl : given = _ := path
    obtain rfl : taken = _ := asText
    rfl

end SqlBinding
