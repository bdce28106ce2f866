import SqlBinding.Syntax.Tree
import SqlBinding.Sql.Location

namespace SqlBinding.Sql

inductive Token where
  /-- An identifier; without quotes it may be a keyword, which is kept in upper case. -/
  | word (ident : Ident) (keyword : String)
  | number (text : String) (long : Bool)
  | string (text : String)
  /-- A string with escapes, in which they are already replaced. -/
  | escaped (text : String)
  /-- A string with characters given by number, in which they are already replaced. -/
  | codePoints (text : String)
  /-- A string between dollar signs, perhaps with a tag in them. -/
  | dollars (tag text : String)
  /-- A literal of another form, as it is shown in messages and what it stands for. -/
  | literal (shown : String) (value : Literal)
  | placeholder (text : String)
  /-- A punctuation mark or an operator. -/
  | symbol (text : String)
  /-- White space or a comment. -/
  | blank (text : String)
  /-- A character without a meaning. -/
  | stray (char : Char)
  /-- The end of the text. -/
  | eof
deriving DecidableEq, Repr

namespace Token

/-- How a token is shown in a message. -/
def render : Token → String
  | word ident _ => if ident.quote.isSome then "\"" ++ ident.value ++ "\"" else ident.value
  | number text long => text ++ if long then "L" else ""
  | string text => "'" ++ text ++ "'"
  | escaped text => "E'" ++ text ++ "'"
  | codePoints text => "U&'" ++ text ++ "'"
  | dollars tag text => "$" ++ tag ++ "$" ++ text ++ "$" ++ tag ++ "$"
  | literal shown _ => shown
  | placeholder text => text
  | symbol text => text
  | blank text => text
  | stray char => String.singleton char
  | eof => "EOF"

def isBlank : Token → Bool
  | blank _ => true
  | _ => false

def isWord : Token → Bool
  | word .. => true
  | _ => false

def isHexadecimal : Token → Bool
  | literal shown _ => shown.startsWith "X'"
  | _ => false

def isText : Token → Bool
  | string _ | escaped _ | codePoints _ | literal _ (.national _) => true
  | _ => false

/-- The keyword a token may stand for; empty if there is none. -/
def keyword : Token → String
  | word _ keyword => keyword
  | _ => ""

/-- The upper case of a character in a keyword: some characters outside the basic alphabet have
capitals inside it. -/
def keywordChar (c : Char) : List Char :=
  match c with
  | 'ı' => ['I']
  | 'ſ' => ['S']
  | 'ß' => ['S', 'S']
  | 'ﬀ' => ['F', 'F']
  | 'ﬁ' => ['F', 'I']
  | 'ﬂ' => ['F', 'L']
  | 'ﬃ' => ['F', 'F', 'I']
  | 'ﬄ' => ['F', 'F', 'L']
  | 'ﬅ' => ['S', 'T']
  | 'ﬆ' => ['S', 'T']
  | c => [c.toUpper]

def ofWord (chars : List Char) : Token :=
  word ⟨String.ofList chars, none⟩ (String.ofList (chars.flatMap keywordChar))

/-- A literal that is shown and written in the same way. -/
def ofWritten (written : String) : Token := literal written (.other written)

/-- A string of the national character set. -/
def ofNational (text : String) : Token := literal ("N'" ++ text ++ "'") (.national text)

def ofBits (text : String) : Token := ofWritten ("B'" ++ text ++ "'")

def ofBytes (text : String) : Token := ofWritten ("B\"" ++ text ++ "\"")

def ofBinary (text : String) : Token := ofWritten ("X'" ++ text ++ "'")

/-- A word between double quotes, which is no keyword. -/
def ofQuoted (chars : List Char) : Token := word ⟨String.ofList chars, some .double⟩ ""

end Token

/-- A token and the place where it starts; the end of the text has none. -/
structure Located where
  token : Token
  location : Option Location
deriving DecidableEq, Repr

def Located.eof : Located := ⟨.eof, none⟩

end SqlBinding.Sql
