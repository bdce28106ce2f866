import SqlBinding.Sql.Token

/-! Readers: they take tokens from the front of a list and build a value, or say what they expected
instead. Blanks between tokens are skipped.
-/

namespace SqlBinding.Sql

/-- Why a text could not be read. -/
inductive ReadFault where
  | unexpected (text : String) (location : Option Location)
  | tooDeep
deriving DecidableEq, Repr

def ReadFault.message : ReadFault → String
  | .unexpected text (some location) => "sql parser error: " ++ text ++ location.render
  | .unexpected text none => "sql parser error: " ++ text
  | .tooDeep => "sql parser error: recursion limit exceeded"

/-- A reader of tokens. Where it fails, the tokens before the failure are taken all the same. -/
abbrev Reader := ExceptT ReadFault (StateM (List Located))

namespace Reader
variable {α β : Type}

/-- The tokens ahead, from the first one that is not blank. -/
def ahead (input : List Located) : List Located := input.dropWhile fun entry => entry.token.isBlank

def peek : Reader Located := do return (ahead (← get)).headD Located.eof

/-- The token behind the next one. -/
def peekSecond : Reader Located := do return (ahead ((ahead (← get)).drop 1)).headD Located.eof

def next : Reader Located := do
  let input := ahead (← get)
  set (input.drop 1)
  return input.headD Located.eof

def failAt (text : String) (location : Option Location) : Reader α :=
  throw (.unexpected text location)

/-- Says what was expected in the place of a token. -/
def expected (what : String) (found : Located) : Reader α :=
  failAt ("Expected: " ++ what ++ ", found: " ++ found.token.render) found.location

/-- Says what was expected in the place of the next token. -/
def expectedNext (what : String) : Reader α := do expected what (← peek)

/-- Runs a reader; if it fails, nothing is taken. -/
def intact (reader : Reader α) : Reader α := do
  let input ← get
  tryCatch reader fun fault => do
    set input
    throw fault

/-- Runs a reader; if it fails, nothing is taken. Nesting that is too deep still fails. -/
def attempt (reader : Reader α) : Reader (Option α) :=
  tryCatch (some <$> intact reader) fun
    | .tooDeep => throw .tooDeep
    | _ => return none

def nextIsSymbol (text : String) : Reader Bool := return (← peek).token == .symbol text

def nextIsKeyword (keyword : String) : Reader Bool := return (← peek).token.keyword == keyword

/-- Takes a symbol if it is next. -/
def acceptSymbol (text : String) : Reader Bool := do
  if ← nextIsSymbol text then
    discard next
    return true
  return false

def expectSymbol (text : String) : Reader Unit := do
  unless ← acceptSymbol text do expectedNext text

/-- Takes a keyword if it is next. -/
def acceptKeyword (keyword : String) : Reader Bool := do
  if ← nextIsKeyword keyword then
    discard next
    return true
  return false

def expectKeyword (keyword : String) : Reader Unit := do
  unless ← acceptKeyword keyword do expectedNext keyword

def expectKeywords (keywords : List String) : Reader Unit := keywords.forM expectKeyword

/-- Takes several keywords in a row, or none of them. -/
def acceptKeywords (keywords : List String) : Reader Bool :=
  return (← attempt (expectKeywords keywords)).isSome

/-- Takes one of several keywords if it is next. -/
def acceptOneOf (keywords : List String) : Reader (Option String) := do
  let keyword := (← peek).token.keyword
  if keywords.contains keyword then
    discard next
    return some keyword
  return none

/-- What a reader gives behind a keyword, if the keyword is next. -/
def behindKeyword (keyword : String) (reader : Reader α) : Reader (Option α) := do
  if ← acceptKeyword keyword then some <$> reader else return none

/-- Repeats a step until it gives nothing. Each step but the last takes a token, so the number of
tokens bounds the number of steps; the last step may find that the input has ended. -/
def iterate (step : α → Reader (Option α)) (start : α) : Reader α := do
  within ((← get).length + 1) start
where
  within : Nat → α → Reader α
  | 0, value => return value
  | steps + 1, value => do
    match ← step value with
    | some following => within steps following
    | none => return value

/-- Values as long as a reader gives them. -/
def collect (reader : Reader (Option α)) : Reader (List α) :=
  List.reverse <$> iterate (fun values => do return (← reader).map (· :: values)) []

/-- One or more values; each says whether another one follows. -/
def collectUntil (reader : Reader (α × Bool)) : Reader (List α) := do
  let (first, more) ← reader
  let (values, _) ← iterate (fun (values, more) => do
    unless more do return none
    let (value, more) ← reader
    return some (value :: values, more)) ([first], more)
  return values.reverse

def separatedBy (separator : String) (reader : Reader α) : Reader (List α) := do
  let first ← reader
  let others ← collect do
    if ← acceptSymbol separator then some <$> reader else return none
  return first :: others

def list (reader : Reader α) : Reader (List α) := separatedBy "," reader

/-- Values separated by commas; there is none if the closing symbol is next. -/
def listBefore (closing : String) (reader : Reader α) : Reader (List α) := do
  if ← nextIsSymbol closing then return [] else list reader

def bracketed (reader : Reader α) : Reader α := do
  expectSymbol "("
  let value ← reader
  expectSymbol ")"
  return value

def ident : Reader Ident := do
  let found ← next
  match found.token with
  | .word name _ => return name
  | .string text => return ⟨text, some .single⟩
  | _ => expected "identifier" found

def name : Reader Name := separatedBy "." ident

def columnList : Reader (List Ident) := bracketed (list ident)

end Reader
end SqlBinding.Sql
