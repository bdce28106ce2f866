import SqlBinding.Sql.Change
import SqlBinding.Sql.Definition
import SqlBinding.Sql.Lexer
import SqlBinding.Sql.Session
import SqlBinding.Sql.Show

namespace SqlBinding.Sql

namespace Grammar
open Reader

variable (inner : Grammar)

/-- A query: a body, or a statement that changes rows in its place. -/
def wholeQuery : Reader Query := do
  let opening ← inner.opening
  if ← acceptKeyword "INSERT" then return ⟨opening, .ofStatement (← inner.insert), []⟩
  if ← acceptKeyword "UPDATE" then return ⟨opening, .ofStatement (← inner.update), []⟩
  if ← acceptKeyword "DELETE" then return ⟨opening, .ofStatement (← inner.delete), []⟩
  let body ← inner.body
  return ⟨opening, body, ← inner.closing⟩

/-- A statement behind the keyword that opens it, if the keyword opens one. -/
def statementBehind? (keyword : String) : Option (Reader Statement) :=
  match keyword with
  | "INSERT" => some inner.insert
  | "UPDATE" => some inner.update
  | "DELETE" => some inner.delete
  | "TRUNCATE" => some inner.truncate
  | "CREATE" => some inner.create
  | "DROP" => some drop
  | "EXPLAIN" | "DESCRIBE" | "DESC" => some (inner.explain keyword)
  | "BEGIN" => some start
  | "START" => some (expectKeyword "TRANSACTION" *> transaction "START TRANSACTION")
  | "COMMIT" | "END" => some (commit keyword)
  | "ROLLBACK" => some rollback
  | "SAVEPOINT" => some (Statement.savepoint <$> ident)
  | "RELEASE" => some release
  | "SET" => some inner.setting
  | "SHOW" => some inner.display
  | "EXECUTE" | "EXEC" => some inner.execute
  | "PREPARE" => some inner.prepare
  | "DEALLOCATE" => some deallocate
  | "CALL" => some inner.procedure
  | "ASSERT" => some inner.assertion
  | _ => none

/-- A statement. A query keeps the token it starts with. -/
def wholeStatement : Reader Statement := do
  let found ← peek
  let keyword := found.token.keyword
  if found.token == .symbol "(" || ["SELECT", "WITH", "VALUES", "FROM"].contains keyword then
    return .query (← inner.query)
  match inner.statementBehind? keyword with
  | some reader => discard next *> reader
  | none => expected "an SQL statement" found

/-- The readers for syntax that nests at most a given number of levels. -/
def ofDepth : Nat → Grammar
  | 0 => exhausted
  | depth + 1 =>
    { expr := fun strength input => (ofDepth depth).expression strength input
      query := fun input => (ofDepth depth).wholeQuery input
      statement := fun input => (ofDepth depth).wholeStatement input }

end Grammar

namespace Script
open Reader

/-- How far a script is read: its statements, the last first, and whether one has just ended, so
that a semicolon has to come before the next. -/
structure Progress where
  statements : List Statement := []
  ended : Bool := false

/-- Reads one semicolon or one statement. A script ends with its text, and with the word `END`
behind a statement. -/
def step (depth : Nat) (progress : Progress) : Reader (Option Progress) := do
  if ← acceptSymbol ";" then return some { progress with ended := false }
  let found ← peek
  if found.token == .eof then return none
  if progress.ended then
    if found.token.keyword == "END" then return none
    return ← expected "end of statement" found
  let statement ← (Grammar.ofDepth depth).statement
  return some ⟨statement :: progress.statements, true⟩

def statements (depth : Nat) : Reader (List Statement) := do
  return (← iterate (step depth) {}).statements.reverse

def ofText (depth : Nat) (sql : String) : Except ReadFault (List Statement) :=
  match tokens sql with
  | .error (text, location) => .error (.unexpected text (some location))
  | .ok entries => ((statements depth).run entries).1

end Script
end SqlBinding.Sql
