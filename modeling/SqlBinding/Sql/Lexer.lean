import SqlBinding.Sql.Strings
import SqlBinding.Sql.Token
import SqlBinding.Text.Character

namespace SqlBinding.Sql

/-- Why a token could not be read, and how far behind its start. -/
structure LexFault where
  text : String
  offset : Nat
deriving DecidableEq, Repr

/-- The first token of a text and the rest of the text, which is shorter. -/
abbrev Lexeme := Except LexFault (Token × List Char)

def startsWord (c : Char) : Bool := Text.isLetter c || c == '_'

def continuesWord (c : Char) : Bool := Text.isLetter c || c.isDigit || c == '$' || c == '_'

def continuesPlaceholder (c : Char) : Bool := Text.isLetter c || Text.isNumeral c || c == '_'

def isOperatorPart (c : Char) : Bool :=
  ['+', '-', '*', '/', '<', '>', '=', '~', '!', '@', '#', '%', '^', '&', '|', '\x60',
    '?'].contains c

/-- A symbol that ends where it is known to end. -/
def fixed (text : String) (rest : List Char) : Lexeme := .ok (.symbol text, rest)

/-- A symbol that swallows the character behind it, whatever it is. -/
def greedy (text : String) (rest : List Char) : Lexeme := fixed text (rest.drop 1)

/-- An operator that takes in the operator characters behind it. -/
def extended (text : String) (rest : List Char) : Lexeme :=
  .ok (.symbol (text ++ String.ofList (rest.takeWhile isOperatorPart)),
    rest.dropWhile isOperatorPart)

/-- The start of an operator that means nothing by itself. -/
def incomplete (text : String) (rest : List Char) : Lexeme :=
  if (rest.takeWhile isOperatorPart).isEmpty then
    .error ⟨"Expected a valid binary operator after '" ++ text ++ "'", text.length⟩
  else extended text rest

/-- Punctuation marks and operators. -/
def symbol? : List Char → Option Lexeme
  | '-' :: '>' :: '>' :: rest => extended "->>" rest
  | '-' :: '>' :: rest => extended "->" rest
  | '-' :: rest => extended "-" rest
  | '/' :: rest => fixed "/" rest
  | '+' :: rest => fixed "+" rest
  | '*' :: rest => fixed "*" rest
  | '%' :: rest => extended "%" rest
  | '|' :: '/' :: rest => extended "|/" rest
  | '|' :: '|' :: '/' :: rest => extended "||/" rest
  | '|' :: '|' :: rest => extended "||" rest
  | '|' :: '&' :: '>' :: rest => extended "|&>" rest
  | '|' :: '&' :: rest => incomplete "|&" rest
  | '|' :: '>' :: '>' :: rest => extended "|>>" rest
  | '|' :: '>' :: rest => incomplete "|>" rest
  | '|' :: rest => extended "|" rest
  | '=' :: '>' :: rest => fixed "=>" rest
  | '=' :: '=' :: rest => fixed "==" rest
  | '=' :: rest => fixed "=" rest
  | '!' :: '=' :: rest => fixed "<>" rest
  | '!' :: '!' :: rest => fixed "!!" rest
  | '!' :: '~' :: '~' :: '*' :: rest => fixed "!~~*" rest
  | '!' :: '~' :: '~' :: rest => fixed "!~~" rest
  | '!' :: '~' :: '*' :: rest => fixed "!~*" rest
  | '!' :: '~' :: rest => fixed "!~" rest
  | '!' :: rest => fixed "!" rest
  | '<' :: '=' :: '>' :: rest => extended "<=>" rest
  | '<' :: '=' :: rest => extended "<=" rest
  | '<' :: '|' :: rest => extended "<<|" rest
  | '<' :: '>' :: rest => extended "<>" rest
  | '<' :: '<' :: '|' :: rest => extended "<<|" rest
  | '<' :: '<' :: rest => extended "<<" rest
  | '<' :: '-' :: '>' :: rest => extended "<->" rest
  | '<' :: '-' :: rest => incomplete "<-" rest
  | '<' :: '^' :: rest => extended "<^" rest
  | '<' :: '@' :: rest => extended "<@" rest
  | '<' :: rest => extended "<" rest
  | '>' :: '=' :: rest => extended ">=" rest
  | '>' :: '>' :: rest => extended ">>" rest
  | '>' :: '^' :: rest => extended ">^" rest
  | '>' :: rest => extended ">" rest
  | ':' :: ':' :: rest => fixed "::" rest
  | ':' :: '=' :: rest => fixed ":=" rest
  | '&' :: '&' :: rest => extended "&&" rest
  | '&' :: '<' :: '|' :: rest => fixed "&<|" rest
  | '&' :: '<' :: rest => extended "&<" rest
  | '&' :: '>' :: rest => greedy "&>" rest
  | '&' :: rest => extended "&" rest
  | '^' :: '@' :: rest => fixed "^@" rest
  | '^' :: rest => fixed "^" rest
  | '~' :: '~' :: '*' :: rest => extended "~~*" rest
  | '~' :: '~' :: rest => extended "~~" rest
  | '~' :: '*' :: rest => extended "~*" rest
  | '~' :: '=' :: rest => extended "~=" rest
  | '~' :: rest => extended "~" rest
  | '#' :: '-' :: rest => extended "#-" rest
  | '#' :: '>' :: '>' :: rest => extended "#>>" rest
  | '#' :: '>' :: rest => extended "#>" rest
  | '#' :: '#' :: rest => extended "##" rest
  | '#' :: rest => extended "#" rest
  | '@' :: '@' :: rest => fixed "@@" rest
  | '@' :: '-' :: '@' :: rest => fixed "@-@" rest
  | '@' :: '-' :: rest => incomplete "@-" rest
  | '@' :: '>' :: rest => fixed "@>" rest
  | '@' :: '?' :: rest => fixed "@?" rest
  | '@' :: rest => fixed "@" rest
  | '?' :: '|' :: '|' :: rest => fixed "?||" rest
  | '?' :: '|' :: rest => fixed "?|" rest
  | '?' :: '&' :: rest => fixed "?&" rest
  | '?' :: '-' :: '|' :: rest => fixed "?-|" rest
  | '?' :: '-' :: rest => fixed "?-" rest
  | '?' :: '#' :: rest => fixed "?#" rest
  | '?' :: rest => greedy "?" rest
  | c :: rest =>
    if ['(', ')', ',', ';', ':', '\\', '[', ']', '\x7b', '\x7d'].contains c then
      some (fixed (String.singleton c) rest)
    else none
  | [] => none

/-- A run of digits of some kind. An underscore belongs to it if a hexadecimal digit follows. -/
def digitRun (isDigit : Char → Bool) : List Char → List Char × List Char
  | [] => ([], [])
  | [c] => if isDigit c then ([c], []) else ([], [c])
  | c :: d :: rest =>
    if isDigit c || (c == '_' && Escape.isHexDigit d) then
      let (run, after) := digitRun isDigit (d :: rest)
      (c :: run, after)
    else ([], c :: d :: rest)

/-- An exponent, if a complete one follows. -/
def exponentRun : List Char → List Char × List Char
  | mark :: rest =>
    let (sign, digits) := match rest with
      | '+' :: digits => (['+'], digits)
      | '-' :: digits => (['-'], digits)
      | digits => ([], digits)
    if (mark == 'e' || mark == 'E') && (digits.head?.map Char.isDigit).getD false then
      (mark :: sign ++ digits.takeWhile Char.isDigit, digits.dropWhile Char.isDigit)
    else ([], mark :: rest)
  | [] => ([], [])

/-- A number, or a period that starts none. -/
def numberLexeme (chars : List Char) : Token × List Char :=
  let (whole, rest) := digitRun Char.isDigit chars
  match whole, rest with
  | ['0'], 'x' :: rest =>
    let (digits, rest) := digitRun Escape.isHexDigit rest
    (.ofBinary (String.ofList digits), rest)
  | _, _ =>
    let (point, rest) := match rest with
      | '.' :: rest => (['.'], rest)
      | rest => ([], rest)
    let (fraction, rest) := digitRun Char.isDigit rest
    if whole.isEmpty && fraction.isEmpty then (.symbol ".", rest)
    else
      let (exponent, rest) := exponentRun rest
      let text := String.ofList (whole ++ point ++ fraction ++ exponent)
      match rest with
      | 'L' :: rest => (.number text true, rest)
      | rest => (.number text false, rest)

/-- A literal whose text stands between quotes, the first of which is the second character. -/
def markedLexeme (token : String → Token) (body : Option (List Char × List Char)) : Lexeme :=
  match body with
  | some (text, rest) => .ok (token (String.ofList text), rest)
  | none => .error ⟨"Unterminated string literal", 1⟩

def escapeLexeme (body : List Char) : Lexeme :=
  match escapedText? body with
  | some (text, rest) => .ok (.escaped (String.ofList text), rest)
  | none => .error ⟨"Unterminated encoded string literal", 0⟩

/-- A string in which characters are given by number, behind the three characters that open it. -/
def codePointLexeme (body : List Char) : Lexeme :=
  match CodePoint.text body with
  | .ok (text, rest) => .ok (.codePoints (String.ofList text), rest)
  | .error fault => .error ⟨fault.text, 3 + fault.taken.length⟩

/-- What starts with a dollar sign: a placeholder, or a string up to the next mark of its kind. -/
def dollarLexeme (rest : List Char) : Lexeme :=
  let tag := rest.takeWhile continuesPlaceholder
  match rest.dropWhile continuesPlaceholder with
  | '$' :: body =>
    let mark := '$' :: tag ++ ['$']
    match textUntil? mark body with
    | some (text, after) =>
      .ok (.dollars (String.ofList tag) (String.ofList text), after)
    | none =>
      .error ⟨if tag.isEmpty then "Unterminated dollar-quoted string"
        else "Unterminated dollar-quoted, expected $", rest.length + 1⟩
  | after => .ok (.placeholder (String.ofList ('$' :: tag)), after)

/-- What starts with a letter or an underscore. -/
def wordLexeme (first : Char) (rest : List Char) : Lexeme :=
  match first.toUpper, rest with
  | 'N', '\'' :: body => markedLexeme .ofNational (quotedText? '\'' body)
  | 'E', '\'' :: body => escapeLexeme body
  | 'B', '\'' :: body => markedLexeme .ofBits (quotedText? '\'' body)
  | 'B', '"' :: body => markedLexeme .ofBytes (quotedText? '"' body)
  | 'X', '\'' :: body => markedLexeme .ofBinary (backslashedText? '\'' body)
  | 'U', '&' :: '\'' :: body => codePointLexeme body
  | _, _ => .ok (.ofWord (first :: rest.takeWhile continuesWord), rest.dropWhile continuesWord)

def lineComment (rest : List Char) : Token × List Char :=
  let inLine (c : Char) := c != '\n' && c != '\r'
  let comment := rest.takeWhile inLine ++ (rest.dropWhile inLine).take 1
  (.blank (String.ofList ('-' :: '-' :: comment)), (rest.dropWhile inLine).drop 1)

def lexeme (first : Char) (rest : List Char) : Lexeme :=
  match first, rest with
  | '-', '-' :: rest => .ok (lineComment rest)
  | '/', '*' :: body =>
    match afterComment? 0 body with
    | some after =>
      let comment := body.take (body.length - after.length)
      .ok (.blank (String.ofList ('/' :: '*' :: comment)), after)
    | none => .error ⟨"Unexpected EOF while in a multi-line comment", rest.length + 1⟩
  | '\'', _ =>
    match quotedText? '\'' rest with
    | some (text, after) => .ok (.string (String.ofList text), after)
    | none => .error ⟨"Unterminated string literal", 0⟩
  | '"', _ =>
    match quotedText? '"' rest with
    | some (text, after) => .ok (.ofQuoted text, after)
    | none => .error ⟨"Expected close delimiter '\"' before EOF.", 0⟩
  | '$', _ => dollarLexeme rest
  | _, _ =>
    if first.isDigit || first == '.' then .ok (numberLexeme (first :: rest))
    else if Text.isBlank first then .ok (.blank (String.singleton first), rest)
    else if startsWord first then wordLexeme first rest
    else (symbol? (first :: rest)).getD (.ok (.stray first, rest))

/-- The tokens of a text within a number of steps, from a place on. -/
def tokensWithin : Nat → Location → List Char → Except (String × Location) (List Located)
  | 0, _, _ => .ok []
  | _, _, [] => .ok []
  | steps + 1, location, first :: rest =>
    match lexeme first rest with
    | .error fault => .error (fault.text, location.advance ((first :: rest).take fault.offset))
    | .ok (token, after) => do
      let consumed := (first :: rest).take (rest.length + 1 - after.length)
      let others ← tokensWithin steps (location.advance consumed) after
      return ⟨token, some location⟩ :: others

/-- The tokens of a text, or a message and the place it is about. Every token takes at least one
character, so there are no more tokens than characters. -/
def tokens (sql : String) : Except (String × Location) (List Located) :=
  tokensWithin sql.length Location.start sql.toList

end SqlBinding.Sql
