namespace SqlBinding.Text

def natOfDigits (chars : List Char) : Nat :=
  chars.foldl (fun value c => 10 * value + (c.toNat - '0'.toNat)) 0

/-- Whether a text is one or more decimal digits and nothing else. -/
def isDigitRun (chars : List Char) : Bool := !chars.isEmpty && chars.all Char.isDigit

inductive NumberFault where
  | noDigits
  | invalidDigit
  | tooLarge
  | tooSmall
  | exponentOverflow (text : String)
deriving DecidableEq, Repr

def NumberFault.message : NumberFault → String
  | noDigits => "cannot parse integer from empty string"
  | invalidDigit => "invalid digit found in string"
  | tooLarge => "number too large to fit in target type"
  | tooSmall => "number too small to fit in target type"
  | exponentOverflow text => "Exponent overflow when parsing '" ++ text ++ "'"

def takeSign : List Char → Bool × List Char
  | '-' :: rest => (true, rest)
  | '+' :: rest => (false, rest)
  | chars => (false, chars)

/-- The whole number that a text stands for, between two limits. The text is read from the left, so
digits that already pass a limit count before what is no digit behind them. -/
def boundedInt (least greatest : Int) (chars : List Char) : Except NumberFault Int :=
  let (negative, digits) := takeSign chars
  let leading := natOfDigits (digits.takeWhile Char.isDigit)
  let value : Int := if negative then -(leading : Int) else leading
  if chars.isEmpty then .error .noDigits
  else if value < least then .error .tooSmall
  else if greatest < value then .error .tooLarge
  else if isDigitRun digits then .ok value
  else .error .invalidDigit

/-- The largest number of 64 bits without a sign. -/
def largestNumber : Nat := 18446744073709551615

def sizeOfText (text : String) : Except NumberFault Nat :=
  (boundedInt 0 largestNumber text.toList).map Int.toNat

/-- The number `digits / 10 ^ scale`, negated if `negative`. The scale keeps the zeros at the end of
a fraction, so `1.50` and `1.5` differ. -/
structure Decimal where
  negative : Bool
  digits : Nat
  scale : Int
deriving DecidableEq, Repr

namespace Decimal

/-- The largest exponent that is read, in 128 bits with a sign. -/
def largestExponent : Int := 170141183460469231731687303715884105727

/-- The largest scale, in 64 bits with a sign. -/
def largestScale : Int := 9223372036854775807

def isExponentMark (c : Char) : Bool := c == 'e' || c == 'E'

/-- The exponent behind the digits: nothing, or a mark with a signed number. -/
def exponentOf : List Char → Except NumberFault Int
  | [] => .ok 0
  | _ :: number => boundedInt (-largestExponent - 1) largestExponent number

/-- The number that a signed run of digits stands for, in which underscores behind the first digit
do not count. -/
def integerOf (chars : List Char) : Except NumberFault (Bool × Nat) :=
  let (negative, digits) := takeSign chars
  if digits.isEmpty then .error .noDigits
  else if digits.head? = some '_' || !digits.all (fun c => c.isDigit || c == '_') then
    .error .invalidDigit
  else .ok (negative, natOfDigits (digits.filter Char.isDigit))

/-- Reads digits with an optional sign, point and exponent. -/
def ofText (text : String) : Except NumberFault Decimal := do
  let base := text.toList.takeWhile fun c => !isExponentMark c
  let exponent ← exponentOf (text.toList.dropWhile fun c => !isExponentMark c)
  let whole := base.takeWhile (· != '.')
  let fraction := (base.dropWhile (· != '.')).drop 1
  let scale : Int := (fraction.filter (· != '_')).length - exponent
  if scale < -largestScale - 1 || largestScale < scale then throw (.exponentOverflow text)
  let (negative, digits) ← integerOf (whole ++ fraction)
  return ⟨negative, digits, scale⟩

def signed (n : Int) : String := if n < 0 then toString n else "+" ++ toString n

/-- The most zeros between the point and the first digit that are still written out. -/
def leadingZeroLimit : Nat := 5

/-- The most zeros between the last digit and the point that are still written out. -/
def trailingZeroLimit : Nat := 15

/-- Digits with the point moved `places` to the left. -/
def pointed (digits : List Char) (places : Nat) : List Char :=
  let padded := List.replicate (places + 1 - digits.length) '0' ++ digits
  padded.take (padded.length - places) ++ '.' :: padded.drop (padded.length - places)

/-- The written form without a sign: positional, unless too many zeros would be filled in. -/
def renderDigits (digits : List Char) (scale : Int) : String :=
  let places := scale.toNat
  let zeros := (-scale).toNat
  if places > digits.length + leadingZeroLimit then
    let mantissa := match digits with
      | first :: second :: rest => first :: '.' :: second :: rest
      | short => short
    String.ofList mantissa ++ "E" ++ signed (digits.length - 1 - scale)
  else if zeros > trailingZeroLimit then
    String.ofList digits ++ "e" ++ signed (-scale)
  else if places = 0 then String.ofList (digits ++ List.replicate zeros '0')
  else String.ofList (pointed digits places)

/-- The written form. Zero has a single one, whatever its scale. -/
def render (value : Decimal) : String :=
  if value.digits = 0 then "0"
  else (if value.negative then "-" else "") ++
    renderDigits (toString value.digits).toList value.scale

end Decimal

/-- A numeral in its written form; a text that is no numeral stays as it is. -/
def normalNumeral (text : String) : String :=
  match Decimal.ofText text with
  | .ok value => value.render
  | .error _ => text

end SqlBinding.Text
