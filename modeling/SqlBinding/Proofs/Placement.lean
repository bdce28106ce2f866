import SqlBinding.Proofs.LastBinding
import SqlBinding.Proofs.Matching
import SqlBinding.Proofs.Traversal

namespace SqlBinding

namespace Insert

theorem warnings_cellBindings (relation : Relation) (target : Option Ident) (cell : Expr) :
    (cellBindings relation target cell).warnings = (cell.storedReport? target.isSome).toList := by
  unfold cellBindings
  cases operand : Operand.of cell with
  | param ordinal =>
    rw [Expr.storedReport?_of_param operand]
    cases target <;> rfl
  | placeholder text =>
    rw [Expr.storedReport?_of_placeholder operand]
    rfl
  | column | json | subquery | other =>
    rw [Expr.storedReport?_of_other (by simp [operand]) (by simp [operand])]
    rfl

theorem exists_cellBindings_ok (relation : Relation) (target : Option Ident) (cell : Expr) :
    ∃ found, (cellBindings relation target cell).outcome = .ok found := by
  unfold cellBindings
  split <;> exact ⟨_, rfl⟩

/-- A cell binds the parameter that it is, if there is a column for it. -/
theorem get?_cellBindings_eq_some_iff {relation : Relation} {target : Option Ident} {cell : Expr} :
    (cellBindings relation target cell).bound.get? param = some bound ↔
      cell.IsParam param ∧ ∃ column, target = some column ∧
        bound = { relation, name := column.canonical } := by
  rw [Expr.isParam_iff]
  unfold cellBindings
  cases operand : Operand.of cell with
  | param ordinal =>
    cases target with
    | none =>
      rw [Walk.get?_bound_of_nil rfl]
      simp
    | some column =>
      rw [Walk.get?_bound_of_single rfl]
      by_cases same : ordinal = param
      · simp [same, eq_comm]
      · simp [same]
  | placeholder | column | json | subquery | other =>
    rw [Walk.get?_bound_of_nil rfl]
    simp

/-- Where a row begins at some position, so do the columns that are left for it. -/
private theorem rowBindings_drop (relation : Relation) (columns : List Ident) (row : List Expr)
    (start : Nat) :
    rowBindings relation (columns.drop start) row =
      Walk.gather (fun cell => cellBindings relation columns[cell.2]? cell.1)
        (row.zipIdx start) := by
  induction row generalizing start with
  | nil =>
    rw [rowBindings]
    rfl
  | cons cell row ih =>
    rw [rowBindings, List.head?_drop, List.tail_drop, ih, List.zipIdx_cons]
    rfl

/-- The cells of a row are walked in turn, each with the column at its position. -/
theorem rowBindings_eq_gather (relation : Relation) (columns : List Ident) (row : List Expr) :
    rowBindings relation columns row =
      Walk.gather (fun cell => cellBindings relation columns[cell.2]? cell.1) row.zipIdx := by
  have dropped := rowBindings_drop relation columns row 0
  rwa [List.drop_zero] at dropped

/-- The column to which a row binds a parameter: the one at the greatest position where the row has
the parameter and there is a column. Cells behind the last column do not count. -/
inductive Places (relation : Relation) (columns : List Ident) (row : List Expr) (param : Param) :
    Option Column → Prop where
  | placed (column : columns[position]? = some ident) (cell : row[position]? = some value)
      (ordinal : value.IsParam param)
      (greatest : ∀ later other, position < later → later < columns.length →
        row[later]? = some other → ¬ other.IsParam param) :
      Places relation columns row param (some { relation, name := ident.canonical })
  | nowhere (absent : ∀ position value, position < columns.length → row[position]? = some value →
        ¬ value.IsParam param) :
      Places relation columns row param none

theorem exists_rowBindings_ok (relation : Relation) (columns : List Ident) (row : List Expr) :
    ∃ found, (rowBindings relation columns row).outcome = .ok found := by
  rw [rowBindings_eq_gather]
  apply Walk.gather_ok_iff.mpr
  intro cell _
  exact exists_cellBindings_ok relation columns[cell.2]? cell.1

theorem places_rowBindings {columns : List Ident}
    (walked : (rowBindings relation columns row).outcome = .ok found) (param : Param) :
    Places relation columns row param ((ParamMap.ofList found).get? param) := by
  have binds (position : Nat) (value : Expr) (inside : position < columns.length)
      (ordinal : value.IsParam param) :
      (cellBindings relation columns[position]? value).bound.get? param ≠ none := by
    rw [get?_cellBindings_eq_some_iff.mpr ⟨ordinal, _, List.getElem?_eq_getElem inside, rfl⟩]
    nofun
  rw [← Walk.bound_of_ok walked]
  rw [rowBindings_eq_gather] at walked ⊢
  cases last : (Walk.gather _ row.zipIdx).bound.get? param with
  | some column =>
    obtain ⟨position, ⟨value, index⟩, listed, bound, unbound⟩ :=
      Walk.last_of_get?_bound_gather walked last
    obtain ⟨present, rfl⟩ : row[position]? = some value ∧ position = index := by
      simpa [List.getElem?_zipIdx] using listed
    obtain ⟨ordinal, ident, column, rfl⟩ := get?_cellBindings_eq_some_iff.mp bound
    refine .placed column present ordinal ?_
    intro later other behind inside alsoPresent alsoOrdinal
    refine binds later other inside alsoOrdinal (unbound later (other, later) behind ?_)
    simp [List.getElem?_zipIdx, alsoPresent]
  | none =>
    refine .nowhere ?_
    intro position value inside present ordinal
    have listed : (value, position) ∈ row.zipIdx := List.mem_zipIdx_iff_getElem?.mpr present
    exact binds position value inside ordinal
      ((Walk.get?_bound_gather_eq_none_iff walked).mp last _ listed)

theorem warnings_rowBindings (relation : Relation) (columns : List Ident) (row : List Expr) :
    (rowBindings relation columns row).warnings =
      row.zipIdx.filterMap fun cell => cell.1.storedReport? (cell.2 < columns.length) := by
  have within (position : Nat) :
      columns[position]?.isSome = decide (position < columns.length) := by
    by_cases inside : position < columns.length <;> simp [inside]
  obtain ⟨found, walked⟩ := exists_rowBindings_ok relation columns row
  rw [rowBindings_eq_gather] at walked ⊢
  apply Walk.warnings_gather_eq_filterMap _ walked
  intro cell
  rw [warnings_cellBindings, within]

/-- An INSERT with a list of columns that stores the only row of a VALUES list. -/
structure StoresRow (insertion : Insert) (row : List Expr) : Prop where
  columns : insertion.columns ≠ []
  source : ∃ source marked, insertion.source = some source ∧ source.body = .values [row] marked

theorem sourceBindings_of_row {insertion : Insert} (stores : insertion.StoresRow row)
    (relation : Relation) :
    sourceBindings relation insertion.columns insertion.source =
      rowBindings relation insertion.columns row := by
  obtain ⟨source, marked, given, body⟩ := stores.source
  have single := singleRow?_eq_some_iff.mpr ⟨marked, body⟩
  cases listed : insertion.columns with
  | nil => exact absurd listed stores.columns
  | cons first rest => simp only [given, sourceBindings, single]

theorem sourceBindings_of_no_row {insertion : Insert} (noRow : ∀ row, ¬ insertion.StoresRow row)
    (relation : Relation) :
    ∃ node, sourceBindings relation insertion.columns insertion.source = (do
      Walk.warn .selectClause node
      return []) := by
  unfold sourceBindings
  split
  case h_1 => exact ⟨_, rfl⟩
  case h_2 source given =>
    split
    case h_1 row first rest single listed =>
      obtain ⟨marked, body⟩ := singleRow?_eq_some_iff.mp single
      exact absurd ⟨by simp [listed], source, marked, given, body⟩ (noRow row)
    case h_2 => exact ⟨_, rfl⟩

/-- An INSERT into a table goes on with what it stores. -/
theorem bindings_of_table {insertion : Insert} (target : insertion.target = .table name)
    (known : Relation.ofName? name = some relation) :
    insertion.bindings = (do
      Walk.emit (.insert relation insertion.columns.length)
      sourceBindings relation insertion.columns insertion.source) := by
  simp only [bindings, target, known, Walk.require, Walk.pure_bind]

/-- An INSERT into a named table succeeds. If it stores one row under a list of columns, the
parameters of the row are placed by position, and the reports on its cells come in their order;
otherwise nothing is bound and there is one warning. -/
theorem analyze_places {insertion : Insert} (target : insertion.target = .table name)
    (named : name ≠ []) :
    ∃ relation analysis, Relation.ofName? name = some relation ∧
      (Statement.insert insertion).analyze.outcome = .ok analysis ∧
      (∀ row, insertion.StoresRow row →
        (∀ param, Places relation insertion.columns row param (analysis.params.get? param)) ∧
        analysis.warnings = row.zipIdx.filterMap fun cell =>
          cell.1.storedReport? (cell.2 < insertion.columns.length)) ∧
      ((∀ row, ¬ insertion.StoresRow row) →
        analysis.params = .empty ∧ ∃ node, analysis.warnings = [⟨.selectClause, node⟩]) := by
  obtain ⟨relation, known⟩ :=
    Option.ne_none_iff_exists'.mp (mt (Relation.ofName?_eq_none_iff name).mp named)
  have stored : ∃ found,
      (sourceBindings relation insertion.columns insertion.source).outcome = .ok found := by
    by_cases stores : ∃ row, insertion.StoresRow row
    · obtain ⟨row, stores⟩ := stores
      rw [sourceBindings_of_row stores]
      exact exists_rowBindings_ok relation insertion.columns row
    · obtain ⟨node, reported⟩ := sourceBindings_of_no_row (not_exists.mp stores) relation
      rw [reported]
      exact ⟨[], rfl⟩
  obtain ⟨found, stored⟩ := stored
  have walked : (Statement.insert insertion).bindings.outcome = .ok found := by
    rw [Statement.bindings, bindings_of_table target known, Walk.outcome_bind (Walk.outcome_emit _),
      stored]
  have reported : (Statement.insert insertion).bindings.warnings =
      (sourceBindings relation insertion.columns insertion.source).warnings := by
    rw [Statement.bindings, bindings_of_table target known,
      Walk.warnings_bind (Walk.outcome_emit _)]
    rfl
  refine ⟨relation, _, known, Statement.analyze_ok_iff.mpr ⟨found, walked, rfl⟩, ?_, ?_⟩
  · intro row stores
    rw [sourceBindings_of_row stores] at stored reported
    exact ⟨places_rowBindings stored, reported.trans (warnings_rowBindings ..)⟩
  · intro noRow
    obtain ⟨node, other⟩ := sourceBindings_of_no_row noRow relation
    rw [other] at stored reported
    obtain rfl := Except.ok.inj stored
    exact ⟨rfl, node, reported⟩

/-- `INSERT INTO "t" ("a", "b") VALUES ($1, ($1), $1, :x, $2)` -/
def unevenRow : Insert where
  opening := "INSERT INTO"
  target := .table [⟨"t", some .double⟩]
  label := none
  columns := [⟨"a", some .double⟩, ⟨"b", some .double⟩]
  partition := []
  source := some ⟨[], .values [[.literal (.placeholder "$1"),
    .nested (.literal (.placeholder "$1")), .literal (.placeholder "$1"),
    .literal (.placeholder ":x"), .literal (.placeholder "$2")]], []⟩
  closing := []

/-- The third cell has no column, so the second one counts. -/
theorem analyze_places_uneven :
    unevenRow.target = .table [⟨"t", some .double⟩] ∧
    ∃ analysis, (Statement.insert unevenRow).analyze.outcome = .ok analysis ∧
      analysis.params.get? ⟨1, by decide, by decide⟩ =
        some { relation := ⟨none, "t"⟩, name := "b" } ∧
      analysis.params.get? ⟨2, by decide, by decide⟩ = none ∧
      analysis.warnings = [⟨.columnTypeInSelectClause, "$1"⟩, ⟨.placeholder, ":x"⟩,
        ⟨.columnTypeInSelectClause, "$2"⟩] := by
  have target : unevenRow.target = .table [⟨"t", some .double⟩] := rfl
  obtain ⟨relation, analysis, known, analyzed, placed, -⟩ := analyze_places target nofun
  obtain rfl := Option.some.inj known
  obtain ⟨-, warnings⟩ := placed _ ⟨nofun, _, _, rfl, rfl⟩
  obtain rfl := Except.ok.inj analyzed
  exact ⟨target, _, rfl, rfl, rfl, warnings⟩

end Insert
end SqlBinding
