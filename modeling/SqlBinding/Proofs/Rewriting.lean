import SqlBinding.Syntax.Placeholders

namespace SqlBinding

/-- What to put in place of each name and placeholder, by what it is used for. -/
structure Rewriting where
  /-- The name that a label gives to a table. -/
  label : Ident → Ident
  /-- A column reference. -/
  reference : Name → Name
  /-- The name of a table itself. -/
  table : Name → Name
  /-- A column in the list of an INSERT. -/
  column : Ident → Ident
  /-- The target of an assignment. -/
  target : Name → Name
  /-- A name in a phrase, and any other that is only written out. -/
  mention : Name → Name
  placeholder : String → String

def Literal.rewrite (rule : Rewriting) : Literal → Literal
  | .placeholder text => .placeholder (rule.placeholder text)
  | value => value

def AssignmentTarget.rewrite (rule : Rewriting) : AssignmentTarget → AssignmentTarget
  | .column name => .column (rule.target name)
  | .tuple names => .tuple (names.map rule.target)

mutual

def Expr.rewrite (rule : Rewriting) : Expr → Expr
  | .column parts => .column (rule.reference parts)
  | .literal value => .literal (value.rewrite rule)
  | .nested inner => .nested (inner.rewrite rule)
  | .logical connective left right => .logical connective (left.rewrite rule) (right.rewrite rule)
  | .negation operand => .negation (operand.rewrite rule)
  | .binary op left right => .binary op (left.rewrite rule) (right.rewrite rule)
  | .inList negated needle items => .inList negated (needle.rewrite rule) (rewriteExprs rule items)
  | .isNull negated operand => .isNull negated (operand.rewrite rule)
  | .subquery query => .subquery (query.rewrite rule)
  | .phrase parts => .phrase (rewriteParts rule parts)

def rewriteExprs (rule : Rewriting) : List Expr → List Expr
  | [] => []
  | expr :: rest => expr.rewrite rule :: rewriteExprs rule rest

def Part.rewrite (rule : Rewriting) : Part → Part
  | .text written => .text written
  | .name parts => .name (rule.mention parts)
  | .expr value => .expr (value.rewrite rule)
  | .query value => .query (value.rewrite rule)
  | .statement value => .statement (value.rewrite rule)

def rewriteParts (rule : Rewriting) : List Part → List Part
  | [] => []
  | part :: rest => part.rewrite rule :: rewriteParts rule rest

def Query.rewrite (rule : Rewriting) : Query → Query
  | ⟨opening, body, closing⟩ =>
    ⟨rewriteParts rule opening, body.rewrite rule, rewriteParts rule closing⟩

def Body.rewrite (rule : Rewriting) : Body → Body
  | .select block => .select (block.rewrite rule)
  | .query inner => .query (inner.rewrite rule)
  | .values rows marked => .values (rewriteRows rule rows) marked
  | .phrase parts => .phrase (rewriteParts rule parts)

def rewriteRows (rule : Rewriting) : List (List Expr) → List (List Expr)
  | [] => []
  | row :: rest => rewriteExprs rule row :: rewriteRows rule rest

def Select.rewrite (rule : Rewriting) : Select → Select
  | ⟨projection, sources, views, selection, grouping⟩ =>
    ⟨rewriteParts rule projection, rewriteSources rule sources, rewriteParts rule views,
      rewriteSelection rule selection, rewriteParts rule grouping⟩

def rewriteSelection (rule : Rewriting) : Option Expr → Option Expr
  | none => none
  | some condition => some (condition.rewrite rule)

def rewriteSources (rule : Rewriting) : List Source → List Source
  | [] => []
  | source :: rest => source.rewrite rule :: rewriteSources rule rest

def Source.rewrite (rule : Rewriting) : Source → Source
  | ⟨factor, joins⟩ => ⟨factor.rewrite rule, rewriteJoins rule joins⟩

def rewriteJoins (rule : Rewriting) : List Join → List Join
  | [] => []
  | join :: rest => join.rewrite rule :: rewriteJoins rule rest

def Join.rewrite (rule : Rewriting) : Join → Join
  | ⟨keyword, factor, condition⟩ => ⟨keyword, factor.rewrite rule, rewriteParts rule condition⟩

def Alias.rewrite (rule : Rewriting) : Alias → Alias
  | ⟨name, columns⟩ => ⟨rule.label name, rewriteParts rule columns⟩

def rewriteLabel (rule : Rewriting) : Option Alias → Option Alias
  | none => none
  | some label => some (label.rewrite rule)

def rewriteArguments (rule : Rewriting) : Option (List Part) → Option (List Part)
  | none => none
  | some arguments => some (rewriteParts rule arguments)

def Factor.rewrite (rule : Rewriting) : Factor → Factor
  | .table name label => .table (rule.table name) (rewriteLabel rule label)
  | .call name arguments numbering label closing =>
    .call (rule.table name) (rewriteArguments rule arguments) numbering (rewriteLabel rule label)
      (rewriteParts rule closing)
  | .join inner label => .join (inner.rewrite rule) (rewriteLabel rule label)
  | .other parts label => .other (rewriteParts rule parts) (rewriteLabel rule label)

def Statement.rewrite (rule : Rewriting) : Statement → Statement
  | .query asked => .query (asked.rewrite rule)
  | .insert insertion => .insert (insertion.rewrite rule)
  | .update change => .update (change.rewrite rule)
  | .delete deletion => .delete (deletion.rewrite rule)
  | .other parts => .other (rewriteParts rule parts)

def Target.rewrite (rule : Rewriting) : Target → Target
  | .table name => .table (rule.table name)
  | .function call => .function (call.rewrite rule)

def rewriteQuery (rule : Rewriting) : Option Query → Option Query
  | none => none
  | some query => some (query.rewrite rule)

def Insert.rewrite (rule : Rewriting) : Insert → Insert
  | ⟨opening, target, label, columns, partition, source, closing⟩ =>
    ⟨opening, target.rewrite rule, label.map rule.label, columns.map rule.column,
      rewriteParts rule partition, rewriteQuery rule source, rewriteParts rule closing⟩

def rewriteAssignments (rule : Rewriting) : List Assignment → List Assignment
  | [] => []
  | assignment :: rest => assignment.rewrite rule :: rewriteAssignments rule rest

def Assignment.rewrite (rule : Rewriting) : Assignment → Assignment
  | ⟨target, value⟩ => ⟨target.rewrite rule, value.rewrite rule⟩

def rewriteClause (rule : Rewriting) : Option (List Source) → Option (List Source)
  | none => none
  | some sources => some (rewriteSources rule sources)

def Update.rewrite (rule : Rewriting) : Update → Update
  | ⟨opening, target, assignments, sources, sourcesFirst, selection, closing⟩ =>
    ⟨opening, target.rewrite rule, rewriteAssignments rule assignments, rewriteClause rule sources,
      sourcesFirst, rewriteSelection rule selection, rewriteParts rule closing⟩

def Delete.rewrite (rule : Rewriting) : Delete → Delete
  | ⟨tables, fromKeyword, sources, joined, selection, closing⟩ =>
    ⟨tables.map rule.mention, fromKeyword, rewriteSources rule sources, rewriteClause rule joined,
      rewriteSelection rule selection, rewriteParts rule closing⟩

end

section
variable (rule : Rewriting)

theorem Literal.placeholders_rewrite (value : Literal) :
    (value.rewrite rule).placeholders = value.placeholders.map rule.placeholder := by
  cases value <;> rfl

mutual

theorem Expr.placeholders_rewrite : ∀ expr : Expr,
    (expr.rewrite rule).placeholders = expr.placeholders.map rule.placeholder
  | .column _ => by simp only [Expr.rewrite, Expr.placeholders, List.map_nil]
  | .literal value => by
    simp only [Expr.rewrite, Expr.placeholders, value.placeholders_rewrite rule]
  | .nested inner => by simp only [Expr.rewrite, Expr.placeholders, inner.placeholders_rewrite]
  | .logical _ left right => by
    simp only [Expr.rewrite, Expr.placeholders, left.placeholders_rewrite,
      right.placeholders_rewrite, List.map_append]
  | .negation operand => by simp only [Expr.rewrite, Expr.placeholders, operand.placeholders_rewrite]
  | .binary _ left right => by
    simp only [Expr.rewrite, Expr.placeholders, left.placeholders_rewrite,
      right.placeholders_rewrite, List.map_append]
  | .inList _ needle items => by
    simp only [Expr.rewrite, Expr.placeholders, needle.placeholders_rewrite,
      placeholdersOfExprs_rewrite items, List.map_append]
  | .isNull _ operand => by simp only [Expr.rewrite, Expr.placeholders, operand.placeholders_rewrite]
  | .subquery query => by simp only [Expr.rewrite, Expr.placeholders, query.placeholders_rewrite]
  | .phrase parts => by simp only [Expr.rewrite, Expr.placeholders, placeholdersOfParts_rewrite parts]

theorem placeholdersOfExprs_rewrite : ∀ exprs : List Expr,
    placeholdersOfExprs (rewriteExprs rule exprs) = (placeholdersOfExprs exprs).map rule.placeholder
  | [] => by simp only [rewriteExprs, placeholdersOfExprs, List.map_nil]
  | first :: rest => by
    simp only [rewriteExprs, placeholdersOfExprs, first.placeholders_rewrite,
      placeholdersOfExprs_rewrite rest, List.map_append]

theorem Part.placeholders_rewrite : ∀ part : Part,
    (part.rewrite rule).placeholders = part.placeholders.map rule.placeholder
  | .text _ | .name _ => by simp only [Part.rewrite, Part.placeholders, List.map_nil]
  | .expr value => by simp only [Part.rewrite, Part.placeholders, value.placeholders_rewrite]
  | .query value => by simp only [Part.rewrite, Part.placeholders, value.placeholders_rewrite]
  | .statement value => by simp only [Part.rewrite, Part.placeholders, value.placeholders_rewrite]

theorem placeholdersOfParts_rewrite : ∀ parts : List Part,
    placeholdersOfParts (rewriteParts rule parts) = (placeholdersOfParts parts).map rule.placeholder
  | [] => by simp only [rewriteParts, placeholdersOfParts, List.map_nil]
  | first :: rest => by
    simp only [rewriteParts, placeholdersOfParts, first.placeholders_rewrite,
      placeholdersOfParts_rewrite rest, List.map_append]

theorem Query.placeholders_rewrite : ∀ query : Query,
    (query.rewrite rule).placeholders = query.placeholders.map rule.placeholder
  | ⟨opening, body, closing⟩ => by
    simp only [Query.rewrite, Query.placeholders, placeholdersOfParts_rewrite opening,
      body.placeholders_rewrite, placeholdersOfParts_rewrite closing, List.map_append]

theorem Body.placeholders_rewrite : ∀ body : Body,
    (body.rewrite rule).placeholders = body.placeholders.map rule.placeholder
  | .select block => by simp only [Body.rewrite, Body.placeholders, block.placeholders_rewrite]
  | .query inner => by simp only [Body.rewrite, Body.placeholders, inner.placeholders_rewrite]
  | .values rows _ => by simp only [Body.rewrite, Body.placeholders, placeholdersOfRows_rewrite rows]
  | .phrase parts => by simp only [Body.rewrite, Body.placeholders, placeholdersOfParts_rewrite parts]

theorem placeholdersOfRows_rewrite : ∀ rows : List (List Expr),
    placeholdersOfRows (rewriteRows rule rows) = (placeholdersOfRows rows).map rule.placeholder
  | [] => by simp only [rewriteRows, placeholdersOfRows, List.map_nil]
  | row :: rest => by
    simp only [rewriteRows, placeholdersOfRows, placeholdersOfExprs_rewrite row,
      placeholdersOfRows_rewrite rest, List.map_append]

theorem Select.placeholders_rewrite : ∀ block : Select,
    (block.rewrite rule).placeholders = block.placeholders.map rule.placeholder
  | ⟨projection, sources, views, selection, grouping⟩ => by
    simp only [Select.rewrite, Select.placeholders, placeholdersOfParts_rewrite projection,
      placeholdersOfSources_rewrite sources, placeholdersOfParts_rewrite views,
      placeholdersOfSelection_rewrite selection, placeholdersOfParts_rewrite grouping,
      List.map_append]

theorem placeholdersOfSelection_rewrite : ∀ selection : Option Expr,
    placeholdersOfSelection (rewriteSelection rule selection) =
      (placeholdersOfSelection selection).map rule.placeholder
  | none => by simp only [rewriteSelection, placeholdersOfSelection, List.map_nil]
  | some condition => by
    simp only [rewriteSelection, placeholdersOfSelection, condition.placeholders_rewrite]

theorem placeholdersOfSources_rewrite : ∀ sources : List Source,
    placeholdersOfSources (rewriteSources rule sources) =
      (placeholdersOfSources sources).map rule.placeholder
  | [] => by simp only [rewriteSources, placeholdersOfSources, List.map_nil]
  | first :: rest => by
    simp only [rewriteSources, placeholdersOfSources, first.placeholders_rewrite,
      placeholdersOfSources_rewrite rest, List.map_append]

theorem Source.placeholders_rewrite : ∀ source : Source,
    (source.rewrite rule).placeholders = source.placeholders.map rule.placeholder
  | ⟨factor, joins⟩ => by
    simp only [Source.rewrite, Source.placeholders, factor.placeholders_rewrite,
      placeholdersOfJoins_rewrite joins, List.map_append]

theorem placeholdersOfJoins_rewrite : ∀ joins : List Join,
    placeholdersOfJoins (rewriteJoins rule joins) = (placeholdersOfJoins joins).map rule.placeholder
  | [] => by simp only [rewriteJoins, placeholdersOfJoins, List.map_nil]
  | first :: rest => by
    simp only [rewriteJoins, placeholdersOfJoins, first.placeholders_rewrite,
      placeholdersOfJoins_rewrite rest, List.map_append]

theorem Join.placeholders_rewrite : ∀ join : Join,
    (join.rewrite rule).placeholders = join.placeholders.map rule.placeholder
  | ⟨_, factor, condition⟩ => by
    simp only [Join.rewrite, Join.placeholders, factor.placeholders_rewrite,
      placeholdersOfParts_rewrite condition, List.map_append]

theorem Alias.placeholders_rewrite : ∀ label : Alias,
    (label.rewrite rule).placeholders = label.placeholders.map rule.placeholder
  | ⟨_, columns⟩ => by
    simp only [Alias.rewrite, Alias.placeholders, placeholdersOfParts_rewrite columns]

theorem placeholdersOfLabel_rewrite : ∀ label : Option Alias,
    placeholdersOfLabel (rewriteLabel rule label) = (placeholdersOfLabel label).map rule.placeholder
  | none => by simp only [rewriteLabel, placeholdersOfLabel, List.map_nil]
  | some label => by simp only [rewriteLabel, placeholdersOfLabel, label.placeholders_rewrite]

theorem placeholdersOfArguments_rewrite : ∀ arguments : Option (List Part),
    placeholdersOfArguments (rewriteArguments rule arguments) =
      (placeholdersOfArguments arguments).map rule.placeholder
  | none => by simp only [rewriteArguments, placeholdersOfArguments, List.map_nil]
  | some arguments => by
    simp only [rewriteArguments, placeholdersOfArguments, placeholdersOfParts_rewrite arguments]

theorem Factor.placeholders_rewrite : ∀ factor : Factor,
    (factor.rewrite rule).placeholders = factor.placeholders.map rule.placeholder
  | .table _ label => by
    simp only [Factor.rewrite, Factor.placeholders, placeholdersOfLabel_rewrite label]
  | .call _ arguments _ label closing => by
    simp only [Factor.rewrite, Factor.placeholders, placeholdersOfArguments_rewrite arguments,
      placeholdersOfLabel_rewrite label, placeholdersOfParts_rewrite closing, List.map_append]
  | .join inner label => by
    simp only [Factor.rewrite, Factor.placeholders, inner.placeholders_rewrite,
      placeholdersOfLabel_rewrite label, List.map_append]
  | .other parts label => by
    simp only [Factor.rewrite, Factor.placeholders, placeholdersOfParts_rewrite parts,
      placeholdersOfLabel_rewrite label, List.map_append]

theorem Statement.placeholders_rewrite : ∀ statement : Statement,
    (statement.rewrite rule).placeholders = statement.placeholders.map rule.placeholder
  | .query asked => by
    simp only [Statement.rewrite, Statement.placeholders, asked.placeholders_rewrite]
  | .insert insertion => by
    simp only [Statement.rewrite, Statement.placeholders, insertion.placeholders_rewrite]
  | .update change => by
    simp only [Statement.rewrite, Statement.placeholders, change.placeholders_rewrite]
  | .delete deletion => by
    simp only [Statement.rewrite, Statement.placeholders, deletion.placeholders_rewrite]
  | .other parts => by
    simp only [Statement.rewrite, Statement.placeholders, placeholdersOfParts_rewrite parts]

theorem Target.placeholders_rewrite : ∀ target : Target,
    (target.rewrite rule).placeholders = target.placeholders.map rule.placeholder
  | .table _ => by simp only [Target.rewrite, Target.placeholders, List.map_nil]
  | .function call => by simp only [Target.rewrite, Target.placeholders, call.placeholders_rewrite]

theorem placeholdersOfQuery_rewrite : ∀ query : Option Query,
    placeholdersOfQuery (rewriteQuery rule query) = (placeholdersOfQuery query).map rule.placeholder
  | none => by simp only [rewriteQuery, placeholdersOfQuery, List.map_nil]
  | some query => by simp only [rewriteQuery, placeholdersOfQuery, query.placeholders_rewrite]

theorem Insert.placeholders_rewrite : ∀ insertion : Insert,
    (insertion.rewrite rule).placeholders = insertion.placeholders.map rule.placeholder
  | ⟨_, target, _, _, partition, source, closing⟩ => by
    simp only [Insert.rewrite, Insert.placeholders, target.placeholders_rewrite,
      placeholdersOfParts_rewrite partition, placeholdersOfQuery_rewrite source,
      placeholdersOfParts_rewrite closing, List.map_append]

theorem placeholdersOfAssignments_rewrite : ∀ assignments : List Assignment,
    placeholdersOfAssignments (rewriteAssignments rule assignments) =
      (placeholdersOfAssignments assignments).map rule.placeholder
  | [] => by simp only [rewriteAssignments, placeholdersOfAssignments, List.map_nil]
  | first :: rest => by
    simp only [rewriteAssignments, placeholdersOfAssignments, first.placeholders_rewrite,
      placeholdersOfAssignments_rewrite rest, List.map_append]

theorem Assignment.placeholders_rewrite : ∀ assignment : Assignment,
    (assignment.rewrite rule).placeholders = assignment.placeholders.map rule.placeholder
  | ⟨_, value⟩ => by
    simp only [Assignment.rewrite, Assignment.placeholders, value.placeholders_rewrite]

theorem placeholdersOfClause_rewrite : ∀ clause : Option (List Source),
    placeholdersOfClause (rewriteClause rule clause) =
      (placeholdersOfClause clause).map rule.placeholder
  | none => by simp only [rewriteClause, placeholdersOfClause, List.map_nil]
  | some sources => by
    simp only [rewriteClause, placeholdersOfClause, placeholdersOfSources_rewrite sources]

theorem Update.placeholders_rewrite : ∀ change : Update,
    (change.rewrite rule).placeholders = change.placeholders.map rule.placeholder
  | ⟨_, target, assignments, sources, _, selection, closing⟩ => by
    simp only [Update.rewrite, Update.placeholders, target.placeholders_rewrite,
      placeholdersOfAssignments_rewrite assignments, placeholdersOfClause_rewrite sources,
      placeholdersOfSelection_rewrite selection, placeholdersOfParts_rewrite closing,
      List.map_append]

theorem Delete.placeholders_rewrite : ∀ deletion : Delete,
    (deletion.rewrite rule).placeholders = deletion.placeholders.map rule.placeholder
  | ⟨_, _, sources, joined, selection, closing⟩ => by
    simp only [Delete.rewrite, Delete.placeholders, placeholdersOfSources_rewrite sources,
      placeholdersOfClause_rewrite joined, placeholdersOfSelection_rewrite selection,
      placeholdersOfParts_rewrite closing, List.map_append]

end

end

end SqlBinding
