import SqlBinding.Syntax.Ident

/-! Statements as trees. What the analysis has to tell apart has a constructor of its own; syntax
that only has to be written out again, and searched for placeholders, is a phrase: text with names,
expressions and queries in between.
-/

namespace SqlBinding

inductive Literal where
  | placeholder (text : String)
  | number (text : String) (long : Bool := false)
  | string (text : String)
  | national (text : String)
  | boolean (value : Bool)
  | null
  /-- A literal of another form, as it is written. -/
  | other (written : String)
deriving DecidableEq, Repr

inductive Connective where
  | and
  | or
deriving DecidableEq, Repr

inductive Quantifier where
  | any
  | some
  | all
deriving DecidableEq, Repr

/-- An operator between two operands, the boolean connectives apart. -/
inductive Operator where
  /-- JSON field access `->`. -/
  | arrow
  /-- JSON field access as text, `->>`. -/
  | longArrow
  | symbol (text : String)
  /-- A comparison with any or all of the values on the right. -/
  | quantified (symbol : String) (quantifier : Quantifier)
deriving DecidableEq, Repr

/-- What an assignment stores into. -/
inductive AssignmentTarget where
  | column (name : Name)
  | tuple (names : List Name)
deriving DecidableEq, Repr

mutual

inductive Expr where
  /-- A column reference; the parts before the last qualify it. -/
  | column (parts : Name)
  | literal (value : Literal)
  | nested (inner : Expr)
  | logical (connective : Connective) (left right : Expr)
  | negation (operand : Expr)
  | binary (op : Operator) (left right : Expr)
  | inList (negated : Bool) (needle : Expr) (items : List Expr)
  | isNull (negated : Bool) (operand : Expr)
  | subquery (query : Query)
  | phrase (parts : List Part)

/-- A piece of a phrase. -/
inductive Part where
  | text (written : String)
  | name (parts : Name)
  | expr (value : Expr)
  | query (value : Query)
  | statement (value : Statement)

/-- A query: its body, what stands before it (WITH) and what stands behind it (ORDER BY, LIMIT). -/
structure Query where
  opening : List Part
  body : Body
  closing : List Part

inductive Body where
  | select (block : Select)
  | query (inner : Query)
  /-- Rows of values; each row may be marked as one. -/
  | values (rows : List (List Expr)) (marked : Bool := false)
  | phrase (parts : List Part)

/-- A SELECT: the projection, the FROM clause with its views, the WHERE clause and the grouping. -/
structure Select where
  projection : List Part
  sources : List Source
  views : List Part
  selection : Option Expr
  grouping : List Part

/-- An item of a FROM clause with the joins attached to it. -/
structure Source where
  factor : Factor
  joins : List Join

structure Join where
  keyword : String
  factor : Factor
  condition : List Part

/-- The name given to a table in a FROM clause, with the names of its columns, if they are given. Each
of them may come with a type. -/
structure Alias where
  name : Ident
  columns : List Part := []

inductive Factor where
  | table (name : Name) (label : Option Alias)
  /-- A table with more behind its name, such as the arguments of a function, which stand in
  parentheses, and a word about numbering, or behind its label. -/
  | call (name : Name) (arguments : Option (List Part)) (numbering : String)
      (label : Option Alias) (closing : List Part)
  | join (inner : Source) (label : Option Alias)
  | other (parts : List Part) (label : Option Alias)

inductive Statement where
  | query (query : Query)
  | insert (insertion : Insert)
  | update (change : Update)
  | delete (deletion : Delete)
  | other (parts : List Part)

/-- What an INSERT stores into. -/
inductive Target where
  | table (name : Name)
  | function (call : Expr)

structure Insert where
  opening : String
  target : Target
  label : Option Ident
  columns : List Ident
  partition : List Part
  source : Option Query
  closing : List Part

structure Assignment where
  target : AssignmentTarget
  value : Expr

/-- An UPDATE. Its FROM clause may be written before SET. -/
structure Update where
  opening : String
  target : Source
  assignments : List Assignment
  sources : Option (List Source)
  sourcesFirst : Bool
  selection : Option Expr
  closing : List Part

/-- A DELETE. The names of tables may be written before FROM, and FROM may be left out. -/
structure Delete where
  tables : List Name
  fromKeyword : Bool
  sources : List Source
  joined : Option (List Source)
  selection : Option Expr
  closing : List Part

end

end SqlBinding
