import SqlBinding.Proofs.Tables

namespace SqlBinding

/-- The FROM clauses declare just one key, perhaps several times. -/
def DeclaresOnly (levels : List (List Source)) (key : String) : Prop :=
  ∀ other, Declares levels other ↔ other = key

/-- What the walk of a query comes to is walked in the scope of the FROM clauses around it. -/
theorem Query.walked_within {query : Query} (body : query.core = .select block)
    (clause : block.selection = some condition) (reached : condition.Reaches path levels part)
    (walked : (query.bindings none).outcome = .ok found) :
    ∃ scope own, (Scope.empty.within (block.sources :: levels)).outcome = .ok scope ∧
      (part.bindings scope).outcome = .ok own ∧
      Walk.Within (part.bindings scope) (query.bindings none) := by
  rw [Query.bindings_core, body] at walked ⊢
  obtain ⟨outer, nested, continued, late⟩ := bindings_select_ok clause walked
  obtain ⟨scope, own, entered, done, part⟩ := reached.walked continued
  exact ⟨scope, own, Scope.within_cons_ok_iff.mpr ⟨outer, nested, entered⟩, done, part.trans late⟩

/-- References are resolved in a scope as FROM clauses require, given with the outermost first. -/
structure Scope.Lexical (scope : Scope) (levels : List (List Source)) : Prop where
  /-- A qualifier is looked up level by level, and else it is a table itself. -/
  qualified : ∀ qualifier column more, (scope.resolve (qualifier :: column :: more)).outcome =
    .ok { relation := (visible? levels qualifier.canonical).getD ⟨none, qualifier.canonical⟩,
          name := column.canonical }
  /-- Without a qualifier a column belongs to the only key. -/
  only : ∀ key column, DeclaresOnly levels key →
    ∃ relation, visible? levels key = some relation ∧
      (scope.resolve [column]).outcome = .ok { relation, name := column.canonical }
  /-- If there is none or more than one, it belongs to the empty key. -/
  several : ∀ column, (∀ key, ¬ DeclaresOnly levels key) →
    (scope.resolve [column]).outcome =
      .ok { relation := (visible? levels "").getD .notFound, name := column.canonical }

private theorem Scope.Lexical.of_look {scope : Scope} {levels : List (List Source)}
    (named : ∀ sources ∈ levels, Named (tablesOf sources))
    (look : ∀ name, scope.get? name = visible? levels name) : scope.Lexical levels := by
  have only_iff (key : String) : scope.Only key ↔ DeclaresOnly levels key := by
    simp only [Scope.Only, look, exists_visible?_iff named, DeclaresOnly]
  constructor
  case qualified =>
    intro qualifier column more
    rw [resolve_ok_iff, Scope.column?, Scope.qualified, look]
  case only =>
    intro key column only
    obtain ⟨relation, found⟩ := (exists_visible?_iff named key).mpr ((only key).mpr rfl)
    refine ⟨relation, found, ?_⟩
    rw [resolve_ok_iff, Scope.column?,
      Scope.unqualified_of_only ((only_iff key).mpr only) ((look key).trans found)]
  case several =>
    intro column several
    rw [resolve_ok_iff, Scope.column?, Scope.unqualified_of_not_only, look]
    exact fun key only => several key ((only_iff key).mp only)

/-- SELECTs that are nested in each other, the outermost first, have a scope in which references are
resolved level by level, and their innermost WHERE clause is walked in it. -/
theorem Scope.lexical_of_nested (first : List Source) (rest : List (List Source))
    (named : ∀ sources ∈ first :: rest, Named (tablesOf sources)) :
    ∃ scope, (do let outer ← Scope.nested none first; outer.within rest).outcome = .ok scope ∧
      scope.Lexical (first :: rest) ∧
      ∀ (query : Query) (block : Select) (condition : Expr) (path : List Nat) (part : Expr)
        (found : List Binding), query.core = .select block → block.sources = first →
        block.selection = some condition → condition.Reaches path rest part →
        (query.bindings none).outcome = .ok found →
        ∃ own, (part.bindings scope).outcome = .ok own ∧
          (part.bindings scope).events <:+: (query.bindings none).events := by
  obtain ⟨scope, entered, look⟩ := Scope.within_ok .empty named
  simp only [Scope.get?_empty, Option.or_none] at look
  refine ⟨scope, entered, .of_look named look, ?_⟩
  rintro query block condition path part found body rfl clause reached walked
  obtain ⟨actual, own, entered', done, part⟩ := Query.walked_within body clause reached walked
  obtain rfl := Except.ok.inj (entered.symm.trans entered')
  exact ⟨own, done, part.events⟩

/-- `FROM "t" AS "x" JOIN ("u" AS "y")` -/
def outerClause : List Source :=
  [⟨.table [⟨"t", some .double⟩] (some ⟨⟨"x", some .double⟩, []⟩),
    [⟨"JOIN", .join ⟨.table [⟨"u", some .double⟩] (some ⟨⟨"y", some .double⟩, []⟩), []⟩ none, []⟩]⟩]

/-- `FROM "s"."v" AS "x"` -/
def innerClause : List Source :=
  [⟨.table [⟨"s", some .double⟩, ⟨"v", some .double⟩] (some ⟨⟨"x", some .double⟩, []⟩), []⟩]

/-- A key that is declared again inside hides the table outside, and the other key stays. -/
theorem Scope.lexical_of_nested_shadowed :
    ∃ scope, (do let outer ← Scope.nested none outerClause; outer.within [innerClause]).outcome =
        .ok scope ∧
      (scope.resolve [⟨"x", some .double⟩, ⟨"c", some .double⟩]).outcome =
        .ok { relation := ⟨some "s", "v"⟩, name := "c" } ∧
      (scope.resolve [⟨"y", some .double⟩, ⟨"c", some .double⟩]).outcome =
        .ok { relation := ⟨none, "u"⟩, name := "c" } := by
  obtain ⟨scope, entered, lexical, -⟩ :=
    Scope.lexical_of_nested outerClause [innerClause] (by decide)
  exact ⟨scope, entered, lexical.qualified _ _ _, lexical.qualified _ _ _⟩

end SqlBinding
