import SqlBinding.Syntax.Render

namespace SqlBinding

namespace Part

/-- Phrases with a text between each two. -/
def separated (separator : String) : List (List Part) → List Part
  | [] => []
  | [last] => last
  | first :: rest => first ++ text separator :: separated separator rest

def commaSeparated (phrases : List (List Part)) : List Part := separated ", " phrases

/-- Expressions separated by commas. -/
def exprs (values : List Expr) : List Part := commaSeparated (values.map fun value => [expr value])

def names (idents : List Ident) : List Part :=
  commaSeparated (idents.map fun ident => [name [ident]])

/-- A clause that may be absent: a text and what follows it. -/
def clause (opening : String) : Option (List Part) → List Part
  | some parts => text opening :: parts
  | none => []

/-- Arguments between parentheses. -/
def bracketed (arguments : List Part) : List Part := text "(" :: arguments ++ [text ")"]

/-- A clause with an expression that may be absent. -/
def exprClause (opening : String) (value : Option Expr) : List Part :=
  clause opening (value.map fun value => [expr value])

end Part

namespace Expr

/-- An operator in front of its operand. -/
def signed (sign : String) (operand : Expr) : Expr := phrase [.text sign, .expr operand]

def inSubquery (negated : Bool) (needle : Expr) (query : Query) : Expr :=
  phrase [.expr needle, .text (" " ++ negationText negated ++ "IN ("), .query query, .text ")"]

def existence (negated : Bool) (query : Query) : Expr :=
  phrase [.text (negationText negated ++ "EXISTS ("), .query query, .text ")"]

/-- A test such as `IS TRUE`. -/
def isTest (test : String) (operand : Expr) : Expr :=
  phrase [.expr operand, .text (" IS " ++ test)]

def distinctFrom (negated : Bool) (left right : Expr) : Expr :=
  phrase [.expr left, .text (" IS " ++ negationText negated ++ "DISTINCT FROM "), .expr right]

def between (negated : Bool) (operand low high : Expr) : Expr :=
  phrase [.expr operand, .text (" " ++ negationText negated ++ "BETWEEN "), .expr low,
    .text " AND ", .expr high]

/-- A match with a pattern; the keyword is `LIKE` or one of its relatives. -/
def like (negated : Bool) (keyword : String) (operand pattern : Expr) (closing : String := "") :
    Expr :=
  phrase [.expr operand, .text (" " ++ negationText negated ++ keyword ++ " "), .expr pattern,
    .text closing]

def cast (operand : Expr) (type : List Part) : Expr :=
  phrase (.expr operand :: .text "::" :: type)

/-- A call with its arguments in parentheses, and what may stand behind. -/
def call (name : Name) (arguments : List Part) (closing : List Part := []) : Expr :=
  phrase (.name name :: .text "(" :: arguments ++ .text ")" :: closing)

def tuple (items : List Expr) : Expr := phrase (.text "(" :: Part.exprs items ++ [.text ")"])

def array (keyword : String) (items : List Expr) : Expr :=
  phrase (.text (keyword ++ "[") :: Part.exprs items ++ [.text "]"])

/-- A CASE expression: the operand, the branches and the result if none applies. -/
def cases (operand : Option Expr) (branches : List (Expr × Expr)) (otherwise : Option Expr) :
    Expr :=
  phrase (.text "CASE" :: Part.exprClause " " operand ++
    branches.flatMap (fun (condition, result) =>
      [.text " WHEN ", .expr condition, .text " THEN ", .expr result]) ++
    Part.exprClause " ELSE " otherwise ++ [.text " END"])

end Expr

/-- A query that is nothing but its body. -/
def Body.toQuery (body : Body) : Query := ⟨[], body, []⟩

namespace Body

/-- Two bodies joined by UNION or a relative of it. -/
def combined (operation : String) (left right : Body) : Body :=
  phrase [.query left.toQuery, .text (" " ++ operation ++ " "), .query right.toQuery]

/-- A statement in the place of a query's body. -/
def ofStatement (statement : Statement) : Body := phrase [.statement statement]

end Body

/-- A table's name as a phrase, with its columns. -/
def Alias.toParts (label : Alias) : List Part :=
  .name [label.name] ::
    if label.columns.isEmpty then [] else .text " (" :: label.columns ++ [.text ")"]

namespace Clause

/-- A named query of a WITH clause; a word about how it is kept may stand before the query. -/
def namedQuery (label : Alias) (kept : String) (query : Query) : List Part :=
  label.toParts ++ [.text (" AS " ++ kept ++ "("), .query query, .text ")"]

/-- The name given to a table, behind its keyword. -/
def renamedTable (label : Option Alias) : List Part := Part.clause " AS " (label.map Alias.toParts)

/-- The WITH clause in front of a query. -/
def named (recursive : Bool) (tables : List (List Part)) : List Part :=
  .text (if recursive then "WITH RECURSIVE " else "WITH ") :: Part.commaSeparated tables ++
    [.text " "]

/-- The items of a projection, with the blank in front. -/
def projection (opening : List Part) (items : List (List Part)) : List Part :=
  opening ++ if items.isEmpty then [] else .text " " :: Part.commaSeparated items

/-- An item of a projection under a new name. -/
def renamed (value : Expr) (name : Ident) : List Part := [.expr value, .text " AS ", .name [name]]

/-- An item of a projection that stands for all columns. -/
def allColumns : List Part := [.text "*"]

/-- An item of a projection that stands for all columns of a table. -/
def allColumnsOf (table : Name) : List Part := [.name table, .text ".*"]

def groupBy (groups : List (List Part)) : List Part :=
  if groups.isEmpty then [] else .text " GROUP BY " :: Part.commaSeparated groups

def having (condition : Option Expr) : List Part := Part.exprClause " HAVING " condition

/-- An ORDER BY clause without a blank in front. -/
def orderBy (keys : List (List Part)) : List Part := .text "ORDER BY " :: Part.commaSeparated keys

def limit (count : Option Expr) : List Part := Part.exprClause " LIMIT " count

def offset (count : Option Expr) : List Part := Part.exprClause " OFFSET " count

def returning (items : Option (List (List Part))) : List Part :=
  Part.clause " RETURNING " (items.map Part.commaSeparated)

/-- The condition of a join. -/
def joinOn (condition : Option Expr) : List Part := Part.exprClause " ON " condition

/-- The columns on which a join compares both sides. -/
def joinUsing (columns : Option (List Name)) : List Part :=
  Part.clause " USING(" (columns.map fun names =>
    Part.commaSeparated (names.map fun name => [.name name]) ++ [.text ")"])

end Clause

namespace Factor

/-- A query in the place of a table, which may see the items before it. -/
def derived (isLateral : Bool) (query : Query) (label : Option Alias) : Factor :=
  other [.text (if isLateral then "LATERAL (" else "("), .query query, .text ")"] label

/-- A table of the elements of arrays, perhaps numbered. -/
def unnest (arrays : List Expr) (numbering : String) (label : Option Alias) : Factor :=
  other (.text "UNNEST(" :: Part.exprs arrays ++ [.text (")" ++ numbering)]) label

end Factor

mutual

/-- A factor as a phrase. -/
def Factor.toParts : Factor → List Part
  | .table name label => .name name :: Clause.renamedTable label
  | .call name arguments numbering label closing =>
    .name name :: (arguments.map Part.bracketed).getD [] ++ .text numbering ::
      Clause.renamedTable label ++ closing
  | .join inner label => .text "(" :: inner.toParts ++ .text ")" :: Clause.renamedTable label
  | .other parts label => parts ++ Clause.renamedTable label

/-- An item of a FROM clause as a phrase. -/
def Source.toParts : Source → List Part
  | ⟨factor, joins⟩ => factor.toParts ++ partsOfJoins joins

def partsOfJoins : List Join → List Part
  | [] => []
  | ⟨keyword, factor, condition⟩ :: rest =>
    .text (" " ++ keyword ++ " ") :: factor.toParts ++ condition ++ partsOfJoins rest

end

/-- A statement that is a few words and a name. -/
def Statement.plain (words : String) (name : Name) : Statement := .other [.text words, .name name]

def Statement.savepoint (name : Ident) : Statement := .plain "SAVEPOINT " [name]

/-- An ASSERT, perhaps with a message. -/
def Statement.assertion (condition : Expr) (message : Option Expr) : Statement :=
  .other (.text "ASSERT " :: .expr condition :: Part.exprClause " AS " message)

/-- The words that open an INSERT. -/
def Insert.openingOf (words : List String) : String := " ".intercalate ("INSERT" :: words)

/-- The words that open an UPDATE. -/
def Update.openingOf (words : List String) : String := " ".intercalate ("UPDATE" :: words)

end SqlBinding
