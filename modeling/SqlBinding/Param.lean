import SqlBinding.Text.Decimal

namespace SqlBinding

/-- The ordinal of a bind parameter. -/
structure Param where
  number : Nat
  positive : 0 < number
  bounded : number ≤ 65535
deriving DecidableEq

/-- A text that names no ordinal parameter. -/
structure InvalidParam where
  text : String
deriving DecidableEq, Repr

def InvalidParam.message (fault : InvalidParam) : String :=
  "Invalid param format '" ++ fault.text ++ "'; expected '$1' for example"

namespace Param

theorem ext {first second : Param} (same : first.number = second.number) : first = second := by
  cases first
  cases second
  simp_all

instance : Repr Param where
  reprPrec param _ := "$" ++ repr param.number

/-- The parameter with a given ordinal, if there is one. -/
def ofNat? (number : Nat) : Option Param :=
  if inside : 0 < number ∧ number ≤ 65535 then some ⟨number, inside.1, inside.2⟩ else none

/-- The parameter named by the characters behind the dollar sign: one plus sign may stand first, and
zeros may lead. -/
def ofDigits? : List Char → Option Param
  | '+' :: digits => if Text.isDigitRun digits then ofNat? (Text.natOfDigits digits) else none
  | digits => if Text.isDigitRun digits then ofNat? (Text.natOfDigits digits) else none

def ofChars? : List Char → Option Param
  | '$' :: rest => ofDigits? rest
  | _ => none

/-- The parameter that a placeholder text names. -/
def ofText? (text : String) : Option Param := ofChars? text.toList

/-- Reads a placeholder text; a text that names no parameter is handed back unchanged. -/
def read (text : String) : Except InvalidParam Param :=
  match ofText? text with
  | some param => .ok param
  | none => .error ⟨text⟩

def render (param : Param) : String := "$" ++ toString param.number

end Param
end SqlBinding
