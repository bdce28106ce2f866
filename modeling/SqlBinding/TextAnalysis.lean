import SqlBinding.Analysis
import SqlBinding.Sql.Statement

namespace SqlBinding

/-- Why a text could not be analyzed. -/
inductive Fault where
  | unreadable (message : String) (cursor : Nat)
  | noStatement
  | malformed (cause : Malformed)
deriving DecidableEq, Repr

def Fault.message : Fault → String
  | .unreadable message _ => message
  | .noStatement => "Invariant failed: parser returned no statements"
  | .malformed cause => cause.message

/-- How deep syntax may nest if nothing else is asked for. -/
def defaultDepth : Nat := 50

/-- The answer for a text, and the events on the way. -/
structure TextAnalysis where
  events : List Event
  outcome : Except Fault Analysis

namespace TextAnalysis

/-- Announces that only the first of several statements counts. -/
def announce (statements : List Statement) : List Event :=
  if 1 < statements.length then [.furtherStatements statements.length] else []

def ofStatements : List Statement → TextAnalysis
  | [] => ⟨[], .error .noStatement⟩
  | first :: rest =>
    let walk := first.analyze
    ⟨announce (first :: rest) ++ walk.events, walk.outcome.mapError .malformed⟩

/-- Analyzes a text whose syntax may nest to a given depth. -/
def ofText (depth : Nat) (sql : String) : TextAnalysis :=
  match Sql.Script.ofText depth sql with
  | .ok statements => ofStatements statements
  | .error fault =>
    let cursor := Sql.cursorPosition sql fault.message
    ⟨[.unreadable cursor fault.message], .error (.unreadable fault.message cursor)⟩

end TextAnalysis
end SqlBinding
