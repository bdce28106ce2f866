import SqlBinding.Column
import SqlBinding.Syntax.Tree

namespace SqlBinding

inductive Operand where
  | column (parts : Name)
  | param (ordinal : Param)
  /-- A placeholder that is not an ordinal. -/
  | placeholder (text : String)
  | json (parts : Name) (accessor : JsonAccessor)
  | subquery (query : Query)
  | other

/-- The key of a JSON field access: a string or a number. -/
def Expr.jsonKey? : Expr → Option String
  | .nested inner => inner.jsonKey?
  | .literal (.string text) => some text
  | .literal (.number text _) => some text
  | _ => none

/-- Whether an operator is a JSON field access, and if so whether it yields text. -/
def Operator.jsonAccess? : Operator → Option Bool
  | .arrow => some false
  | .longArrow => some true
  | _ => none

namespace Operand

def ofPlaceholder (text : String) : Operand :=
  match Param.ofText? text with
  | some ordinal => .param ordinal
  | none => .placeholder text

/-- A field access on an operand: the path grows by the key, and the last operator decides whether
the value is taken as text. -/
def access (left : Operand) (key : String) (asText : Bool) : Operand :=
  match left with
  | .column parts => .json parts ⟨key, asText⟩
  | .json parts accessor => .json parts ⟨accessor.path ++ "." ++ key, asText⟩
  | _ => .other

def of : Expr → Operand
  | .nested inner => of inner
  | .column parts => .column parts
  | .literal (.placeholder text) => ofPlaceholder text
  | .subquery query => .subquery query
  | .binary op left right =>
    match op.jsonAccess?, right.jsonKey? with
    | some asText, some key => access (of left) key asText
    | _, _ => .other
  | _ => .other

end Operand
end SqlBinding
