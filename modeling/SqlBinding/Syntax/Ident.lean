import SqlBinding.Text.Lowercase

/-! Identifiers as written, with their quotes, and the canonical names they stand for. Between quotes a
quote is written twice, so that the text can be read back; a pair of quotes counts as already written
twice, and a quote behind a backslash as already escaped.
-/

namespace SqlBinding

namespace Text

/-- The inside of a quoted text. `escaped` says whether a backslash stands directly before, quotes
in between apart. -/
def doubleQuotes (quote : Char) (escaped : Bool) : List Char → List Char
  | [] => []
  | [c] => if c = quote && !escaped then [quote, quote] else [c]
  | c :: d :: rest =>
    if c ≠ quote then c :: doubleQuotes quote (c == '\\') (d :: rest)
    else if escaped then c :: doubleQuotes quote true (d :: rest)
    else if d = quote then quote :: quote :: doubleQuotes quote false rest
    else quote :: quote :: doubleQuotes quote false (d :: rest)

/-- The inside of a quoted text. -/
def escaped (quote : Char) (text : String) : String :=
  String.ofList (doubleQuotes quote false text.toList)

/-- A text between two quotes. -/
def quoted (quote : Char) (text : String) : String :=
  String.singleton quote ++ escaped quote text ++ String.singleton quote

end Text

/-- How an identifier is quoted. -/
inductive Quote where
  | double
  | single
  | backtick
  | bracket
deriving DecidableEq, Repr

structure Ident where
  value : String
  quote : Option Quote := none
deriving DecidableEq, Repr

/-- A dotted name; its parts are in the order in which they are written. -/
abbrev Name := List Ident

namespace Ident

/-- The name an identifier stands for: without quotes it is folded to lower case, with quotes it is
taken as it is. -/
def canonical (ident : Ident) : String :=
  match ident.quote with
  | none => Text.lower ident.value
  | some _ => ident.value

def render (ident : Ident) : String :=
  match ident.quote with
  | none => ident.value
  | some .double => Text.quoted '"' ident.value
  | some .single => Text.quoted '\'' ident.value
  | some .backtick => Text.quoted (Char.ofNat 96) ident.value
  | some .bracket => "[" ++ ident.value ++ "]"

end Ident

def Name.render (name : Name) : String := ".".intercalate (name.map Ident.render)

end SqlBinding
