/-! The insides of string literals in SQL text. Each reader takes the characters behind the opening
mark and gives the text meant and what follows the closing mark, or nothing if there is none.
-/

namespace SqlBinding.Sql

/-- Text up to a quote; a doubled quote stands for one. -/
def quotedText? (quote : Char) : List Char → Option (List Char × List Char)
  | [] => none
  | [c] => if c = quote then some ([], []) else none
  | c :: d :: rest =>
    if c = quote then
      if d = quote then (quotedText? quote rest).map fun (text, after) => (quote :: text, after)
      else some ([], d :: rest)
    else (quotedText? quote (d :: rest)).map fun (text, after) => (c :: text, after)

/-- The character that a backslash and a letter stand for. -/
def backslashed : Char → Char
  | '0' => '\x00'
  | 'a' => '\x07'
  | 'b' => '\x08'
  | 'f' => '\x0c'
  | 'n' => '\n'
  | 'r' => '\r'
  | 't' => '\t'
  | 'Z' => '\x1a'
  | c => c

/-- Text up to a quote; a doubled quote stands for one, and a backslash changes the meaning of the
character behind it. -/
def backslashedText? (quote : Char) : List Char → Option (List Char × List Char)
  | [] => none
  | [c] => if c = quote then some ([], []) else none
  | c :: d :: rest =>
    if c = quote then
      if d = quote then
        (backslashedText? quote rest).map fun (text, after) => (quote :: text, after)
      else some ([], d :: rest)
    else if c = '\\' then
      (backslashedText? quote rest).map fun (text, after) => (backslashed d :: text, after)
    else (backslashedText? quote (d :: rest)).map fun (text, after) => (c :: text, after)

/-- Text up to the first occurrence of a closing mark. -/
def textUntil? (mark : List Char) : List Char → Option (List Char × List Char)
  | [] => if mark.isEmpty then some ([], []) else none
  | c :: rest =>
    if mark.isPrefixOf (c :: rest) then some ([], (c :: rest).drop mark.length)
    else (textUntil? mark rest).map fun (text, after) => (c :: text, after)

/-- What follows a comment that is `depth` levels inside others. -/
def afterComment? (depth : Nat) : List Char → Option (List Char)
  | [] => none
  | '/' :: '*' :: rest => afterComment? (depth + 1) rest
  | '*' :: '/' :: rest =>
    match depth with
    | 0 => some rest
    | outer + 1 => afterComment? outer rest
  | _ :: rest => afterComment? depth rest

namespace Escape

def isHexDigit (c : Char) : Bool :=
  c.isDigit || ('a' ≤ c && c ≤ 'f') || ('A' ≤ c && c ≤ 'F')

def isOctalDigit (c : Char) : Bool := '0' ≤ c && c ≤ '7'

def hexValue (c : Char) : Nat :=
  if c.isDigit then c.toNat - '0'.toNat else c.toUpper.toNat - 'A'.toNat + 10

def valueOf (base : Nat) (digits : List Char) : Nat :=
  digits.foldl (fun value c => base * value + hexValue c) 0

/-- A character by its number; zero and the numbers of no character are refused. -/
def charOf? (number : Nat) : Option Char :=
  if number ≠ 0 && number.isValidChar then some (Char.ofNat number) else none

/-- A character by its byte, of which only the lowest eight bits count. -/
def byteOf? (number : Nat) : Option Char :=
  if number % 256 < 128 then charOf? (number % 256) else none

/-- The character of a fixed number of hexadecimal digits, the first of which may be a plus sign. -/
def wideOf? (width : Nat) (chars : List Char) : Option (Char × List Char) :=
  let written := chars.take width
  let digits := if written.head? = some '+' then written.drop 1 else written
  if written.length = width && digits.all isHexDigit then
    (charOf? (valueOf 16 digits)).map fun c => (c, chars.drop width)
  else none

/-- The character that stands behind a backslash, and what follows. -/
def read? : List Char → Option (Char × List Char)
  | [] => none
  | 'b' :: rest => some ('\x08', rest)
  | 'f' :: rest => some ('\x0c', rest)
  | 'n' :: rest => some ('\n', rest)
  | 'r' :: rest => some ('\r', rest)
  | 't' :: rest => some ('\t', rest)
  | 'u' :: rest => wideOf? 4 rest
  | 'U' :: rest => wideOf? 8 rest
  | 'x' :: rest =>
    let digits := (rest.take 2).takeWhile isHexDigit
    if digits.isEmpty then some ('x', rest)
    else (byteOf? (valueOf 16 digits)).map fun c => (c, rest.drop digits.length)
  | c :: rest =>
    if isOctalDigit c then
      let digits := c :: (rest.take 2).takeWhile isOctalDigit
      (byteOf? (valueOf 8 digits)).map fun c => (c, rest.drop (digits.length - 1))
    else if c = Char.ofNat 0 then none
    else some (c, rest)

/-- A text as it is written between the quotes of an escape string. -/
def render (text : String) : String :=
  String.ofList (text.toList.flatMap fun
    | '\'' => ['\\', '\'']
    | '\\' => ['\\', '\\']
    | '\n' => ['\\', 'n']
    | '\t' => ['\\', 't']
    | '\r' => ['\\', 'r']
    | c => [c])

end Escape

/-- Text up to a quote in which a backslash escapes characters, within a number of steps. -/
def escapedWithin? : Nat → List Char → Option (List Char × List Char)
  | 0, _ => none
  | _, [] => none
  | steps + 1, '\'' :: '\'' :: rest =>
    (escapedWithin? steps rest).map fun (text, after) => ('\'' :: text, after)
  | _ + 1, '\'' :: rest => some ([], rest)
  | steps + 1, '\\' :: rest => do
    let (c, rest) ← Escape.read? rest
    let (text, after) ← escapedWithin? steps rest
    return (c :: text, after)
  | steps + 1, c :: rest => (escapedWithin? steps rest).map fun (text, after) => (c :: text, after)

/-- Text up to a quote in which a backslash escapes characters. Every step takes a character. -/
def escapedText? (chars : List Char) : Option (List Char × List Char) :=
  escapedWithin? (chars.length + 1) chars

namespace CodePoint

/-- Why an escaped character could not be read, and the characters taken before that was clear. -/
structure Fault where
  text : String
  taken : List Char
deriving DecidableEq, Repr

/-- The number that a given count of hexadecimal digits stands for, and what follows. -/
def digits (count value : Nat) (taken : List Char) : List Char → Except Fault (Nat × List Char)
  | chars =>
    match count, chars with
    | 0, rest => .ok (value, rest)
    | _ + 1, [] =>
      .error ⟨"Unexpected EOF while parsing hex digit in escaped unicode string.", taken⟩
    | left + 1, c :: rest =>
      if Escape.isHexDigit c then digits left (16 * value + Escape.hexValue c) (taken ++ [c]) rest
      else
        .error ⟨"Invalid hex digit in escaped unicode string: " ++ String.singleton c, taken ++ [c]⟩

def hex (number : Nat) : String := String.ofList (Nat.toDigits 16 number)

/-- The character with the number that a given count of hexadecimal digits stands for. -/
def read (count : Nat) (chars : List Char) : Except Fault (Char × List Char) := do
  let (number, rest) ← digits count 0 [] chars
  if number.isValidChar then return (Char.ofNat number, rest)
  throw ⟨"Invalid unicode character: " ++ hex number, chars.take count⟩

/-- Text up to a quote in which a backslash stands before the number of a character, within a number
of steps. -/
def textWithin : Nat → List Char → Except Fault (List Char × List Char)
  | 0, _ => .error ⟨"Unterminated unicode encoded string literal", []⟩
  | _ + 1, [] => .error ⟨"Unterminated unicode encoded string literal", []⟩
  | steps + 1, '\'' :: '\'' :: rest => behind steps ['\'', '\''] '\'' rest
  | _ + 1, '\'' :: rest => .ok ([], rest)
  | steps + 1, '\\' :: '\\' :: rest => behind steps ['\\', '\\'] '\\' rest
  | steps + 1, '\\' :: '+' :: rest => numbered steps ['\\', '+'] 6 rest
  | steps + 1, '\\' :: rest => numbered steps ['\\'] 4 rest
  | steps + 1, c :: rest => behind steps [c] c rest
where
  /-- The text that goes on behind a character. -/
  behind (steps : Nat) (taken : List Char) (c : Char) (rest : List Char) :
      Except Fault (List Char × List Char) :=
    match textWithin steps rest with
    | .ok (text, after) => .ok (c :: text, after)
    | .error fault => .error { fault with taken := taken ++ fault.taken }
  /-- The text that goes on behind an escaped character. -/
  numbered (steps : Nat) (taken : List Char) (count : Nat) (rest : List Char) :
      Except Fault (List Char × List Char) :=
    match read count rest with
    | .ok (c, after) => behind steps (taken ++ rest.take count) c after
    | .error fault => .error { fault with taken := taken ++ fault.taken }

/-- Text up to a quote in which a backslash stands before the number of a character. Every step
takes a character. -/
def text (chars : List Char) : Except Fault (List Char × List Char) :=
  textWithin (chars.length + 1) chars

/-- A number in upper-case hexadecimal digits, filled with zeros to a width. -/
def padded (width number : Nat) : List Char :=
  let digits := (Nat.toDigits 16 number).map Char.toUpper
  List.replicate (width - digits.length) '0' ++ digits

/-- A text as it is written between quotes where characters may be given by number. -/
def render (text : String) : String :=
  String.ofList (text.toList.flatMap fun c =>
    if c = '\'' then ['\'', '\'']
    else if c = '\\' then ['\\', '\\']
    else if c.toNat < 128 then [c]
    else if c.toNat ≤ 0xFFFF then '\\' :: padded 4 c.toNat
    else '\\' :: '+' :: padded 6 c.toNat)

end CodePoint

end SqlBinding.Sql
