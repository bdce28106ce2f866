import SqlBinding.Proofs.Param
import SqlBinding.Proofs.Traversal
import SqlBinding.TextAnalysis

namespace SqlBinding

/-- Each key of an analysis is other than zero, and is the one number that some of the texts names. -/
def Analysis.KeysNamed (analysis : Analysis) (texts : List String) : Prop :=
  ∀ param, param ∈ analysis.params.keys ∨ param ∈ analysis.placeholders.toList →
    param.number ≠ 0 ∧ ∃ text ∈ texts, ∀ number, Param.Names text number ↔ number = param.number

theorem Statement.mem_params_of_key {statement : Statement} {analysis : Analysis} {param : Param}
    (analyzed : statement.analyze.outcome = .ok analysis)
    (key : param ∈ analysis.params.keys ∨ param ∈ analysis.placeholders.toList) :
    param ∈ statement.params.toList := by
  obtain ⟨found, walked, rfl⟩ := Statement.analyze_ok_iff.mp analyzed
  rcases key with bound | present
  · obtain ⟨column, member⟩ := (ParamMap.mem_keys_ofList found param).mp bound
    exact (statement.mem_params_iff param).mpr (Statement.holds_of_binding walked member)
  · exact present

theorem Statement.keysNamed {statement : Statement} {analysis : Analysis}
    (analyzed : statement.analyze.outcome = .ok analysis) :
    analysis.KeysNamed statement.placeholders := by
  intro param key
  have inventoried := Statement.mem_params_of_key analyzed key
  rw [Statement.params, ParamSet.mem_ofList, List.mem_filterMap] at inventoried
  obtain ⟨text, occurs, numbered⟩ := inventoried
  have named := (Param.ofText?_eq_some_iff text param).mp numbered
  refine ⟨Nat.ne_of_gt param.positive, text, occurs, ?_⟩
  intro number
  constructor
  · intro also
    exact also.unique named
  · rintro rfl
    exact named

/-- Of parsed statements the first one is analyzed, and there is no answer without one. -/
theorem TextAnalysis.ofStatements_ok {statements : List Statement} {analysis : Analysis}
    (answered : (TextAnalysis.ofStatements statements).outcome = .ok analysis) :
    ∃ statement rest, statements = statement :: rest ∧ statement.analyze.outcome = .ok analysis := by
  cases statements with
  | nil => cases answered
  | cons statement rest =>
    refine ⟨statement, rest, rfl, ?_⟩
    cases walked : statement.analyze.outcome with
    | error cause => simp [ofStatements, walked, Except.mapError] at answered
    | ok result => simpa [ofStatements, walked, Except.mapError] using answered

/-- Reading accepts exactly the texts that name a number from 1 to 65535, with that number, and hands
back every other text unchanged. The texts of a parameter are the one in which it is written, and those
with a plus sign or zeros put in behind the dollar sign. So in the analysis of a statement, also of the
first of several, no key is zero, and none is what is left of a number that is too large. -/
theorem Param.read_iff_names :
    (∀ text number, (read text).map Param.number = .ok number ↔
      Names text number ∧ 1 ≤ number ∧ number ≤ 65535) ∧
    (∀ text, (¬ ∃ number, Names text number ∧ 1 ≤ number ∧ number ≤ 65535) →
      read text = .error ⟨text⟩) ∧
    (∀ text param, read text = .ok param ↔
      ∃ sign zeros, (sign = "" ∨ sign = "+") ∧
        text = "$" ++ sign ++ (String.ofList (List.replicate zeros '0') ++ toString param.number)) ∧
    (∀ param, read param.render = .ok param) ∧
    (∀ (statement : Statement) analysis, statement.analyze.outcome = .ok analysis →
      analysis.KeysNamed statement.placeholders) ∧
    ∀ statements analysis, (TextAnalysis.ofStatements statements).outcome = .ok analysis →
      ∃ statement rest, statements = statement :: rest ∧
        analysis.KeysNamed statement.placeholders := by
  have spelled (text : String) (param : Param) :=
    (read_eq_ok_iff text param).trans (names_iff_zeros param.positive text)
  refine ⟨map_read_eq_ok_iff, ?_, spelled, ?_, fun _ _ => Statement.keysNamed, ?_⟩
  · intro text unnamed
    refine (read_eq_error_iff text ⟨text⟩).mpr ⟨rfl, ?_⟩
    intro param named
    exact unnamed ⟨param.number, named, param.positive, param.bounded⟩
  · intro param
    exact (spelled _ param).mpr ⟨"", 0, .inl rfl, by simp [render]⟩
  · intro statements analysis answered
    obtain ⟨statement, rest, listed, analyzed⟩ := TextAnalysis.ofStatements_ok answered
    exact ⟨statement, rest, listed, Statement.keysNamed analyzed⟩

/-- `ASSERT $+007 = $0` -/
def partlyNumbered : Statement :=
  .other [.text "ASSERT ",
    .expr (.binary (.symbol "=") (.literal (.placeholder "$+007")) (.literal (.placeholder "$0")))]

/-- `DELETE FROM "t" WHERE "a" = $65537 AND "b" = $007`: cut to 16 bits, the first number would be that
of the parameter `$1`. -/
def overflowing : Statement :=
  .delete ⟨[], true, [⟨.table [⟨"t", some .double⟩] none, []⟩], none,
    some (.logical .and (comparedWith [⟨"a", some .double⟩] "$65537")
      (comparedWith [⟨"b", some .double⟩] "$007")), []⟩

/-- The last ordinal with a sign and zeros, one that is too large by two, a tree with a zero, and the
first of two trees with a number that is too large. -/
theorem Param.read_iff_names_too_large :
    (read "$+00065535").map Param.number = .ok 65535 ∧
    read "$65537" = .error ⟨"$65537"⟩ ∧
    (∃ analysis, partlyNumbered.analyze.outcome = .ok analysis ∧
      analysis.placeholders.toList.map Param.number = [7] ∧ analysis.KeysNamed ["$+007", "$0"]) ∧
    ∃ analysis, (TextAnalysis.ofStatements [overflowing, partlyNumbered]).outcome = .ok analysis ∧
      analysis.params.keys.map Param.number = [7] ∧ analysis.KeysNamed ["$65537", "$007"] := by
  obtain ⟨accepted, refused, -, -, ofTree, ofTrees⟩ := read_iff_names
  refine ⟨?_, ?_, ?_, ?_⟩
  · have named : Names "$+00065535" 65535 :=
      ⟨"+", "00065535", rfl, .inr rfl, (Text.denotes_iff _ _).mpr ⟨rfl, rfl⟩⟩
    exact (accepted _ _).mpr ⟨named, by decide, by decide⟩
  · have named : Names "$65537" 65537 :=
      ⟨"", "65537", rfl, .inl rfl, (Text.denotes_iff _ _).mpr ⟨rfl, rfl⟩⟩
    apply refused
    intro given
    obtain ⟨number, also, -, bounded⟩ := given
    have same := also.unique named
    omega
  · have analyzed := Statement.analyze_ok_iff.mpr
      ⟨[], (rfl : partlyNumbered.bindings.outcome = .ok []), rfl⟩
    exact ⟨_, analyzed, rfl, ofTree _ _ analyzed⟩
  · have answered : ∃ analysis,
        (TextAnalysis.ofStatements [overflowing, partlyNumbered]).outcome = .ok analysis := ⟨_, rfl⟩
    obtain ⟨analysis, answered⟩ := answered
    obtain ⟨statement, rest, listed, named⟩ := ofTrees _ _ answered
    obtain ⟨rfl, -⟩ := List.cons.inj listed
    refine ⟨analysis, answered, ?_, named⟩
    obtain rfl := Except.ok.inj answered
    rfl

end SqlBinding
