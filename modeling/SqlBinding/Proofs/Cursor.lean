import Mathlib.Data.List.Induction
import SqlBinding.Proofs.Param
import SqlBinding.Sql.Location

/-! From places back to offsets. Reading counts lines and columns from one, and a message ends in the
place that it is about. The offset that is found for such a message is that of the character which
stands at the place, whatever the message says before. A message without a place, or with a line zero,
points behind the text.
-/

namespace SqlBinding.Sql

namespace Location

/-- The place behind characters: each newline among them ends a line, and the others since the last one
fill columns. -/
def behind (chars : List Char) : Location :=
  ⟨chars.count '\n' + 1, (chars.reverse.takeWhile (· ≠ '\n')).length + 1⟩

/-- The place of a character of a text, or of its end, by the offset from one. -/
def ofPosition (sql : String) (position : Nat) : Location := behind (sql.toList.take (position - 1))

/-- Neither number of a place is too large. -/
def Fits (place : Location) : Prop :=
  place.line ≤ Text.largestNumber ∧ place.column ≤ Text.largestNumber

instance (place : Location) : Decidable place.Fits :=
  inferInstanceAs (Decidable (_ ∧ _))

theorem behind_concat (chars : List Char) (c : Char) : behind (chars ++ [c]) = (behind chars).after c := by
  by_cases newline : c = '\n'
  · simp [behind, after, newline]
  · simp [behind, after, newline]

/-- Reading from the start of a text keeps count of the place. -/
theorem advance_start (chars : List Char) : start.advance chars = behind chars := by
  induction chars using List.reverseRecOn with
  | nil => rfl
  | append_singleton earlier last ih =>
    rw [behind_concat, ← ih]
    exact List.foldl_append

end Location

/-- The lines up to a newline are gone through to its end. -/
theorem charsBefore_newline (before rest : List Char) :
    charsBefore (before.count '\n' + 2) (before ++ '\n' :: rest) = before.length + 1 := by
  induction before with
  | nil => simp [charsBefore]
  | cons c before ih =>
    by_cases newline : c = '\n'
    · have counted : (c :: before).count '\n' = before.count '\n' + 1 := by simp [newline]
      rw [counted, List.cons_append, charsBefore, if_pos newline, ih, List.length_cons, Nat.add_comm 1]
    · have counted : (c :: before).count '\n' = before.count '\n' := by simp [newline]
      rw [counted, List.cons_append, charsBefore, if_neg newline, ih, List.length_cons, Nat.add_comm 1]

/-- The characters before the line of a place and the column in that line lead to the place. One more
character moves the column, unless it is a newline: then all before it is passed. -/
theorem charsBefore_behind (before rest : List Char) :
    charsBefore (Location.behind before).line (before ++ rest) + (Location.behind before).column =
      before.length + 1 := by
  induction before using List.reverseRecOn generalizing rest with
  | nil => simp [Location.behind, charsBefore]
  | append_singleton before c ih =>
    rw [Location.behind_concat, List.append_assoc, List.singleton_append, List.length_append,
      List.length_singleton]
    by_cases newline : c = '\n'
    · have line : ((Location.behind before).after c).line = before.count '\n' + 2 := by
        simp [Location.behind, Location.after, newline]
      have column : ((Location.behind before).after c).column = 1 := by
        simp [Location.after, newline]
      rw [line, column, newline, charsBefore_newline]
    · have moved : (Location.behind before).after c =
          ⟨(Location.behind before).line, (Location.behind before).column + 1⟩ := by
        simp [Location.after, newline]
      rw [moved]
      exact congrArg (· + 1) (ih (c :: rest))

/-- Digits that write a number: zeros may lead, and the number is not too large. -/
structure Writes (digits : List Char) (number : Nat) : Prop where
  run : Text.isDigitRun digits = true
  value : Text.natOfDigits digits = number
  bounded : number ≤ Text.largestNumber

/-- A message that ends in a place. Anything may stand in front of it. -/
def EndsIn (message : String) (place : Location) : Prop :=
  ∃ front line column : String,
    message = front ++ "at Line: " ++ line ++ ", Column: " ++ column ∧
    Writes line.toList place.line ∧ Writes column.toList place.column

theorem writes_toString {number : Nat} (bounded : number ≤ Text.largestNumber) :
    Writes (toString number).toList number := by
  rw [Nat.toString_eq_repr, Nat.toList_repr]
  exact ⟨Text.isDigitRun_toDigits number, Text.natOfDigits_toDigits number, bounded⟩

theorem endsIn_render {place : Location} (fits : place.Fits) (front : String) :
    EndsIn (front ++ place.render) place := by
  refine ⟨front ++ " ", toString place.line, toString place.column, ?_, writes_toString fits.1,
    writes_toString fits.2⟩
  apply String.toList_inj.mp
  simp [Location.render, String.toList_append]

/-- Read from the end, digits stop at the first character that is none. -/
private theorem splitDigits {blank : Char} (apart : blank.isDigit = false) (front : List Char)
    {digits : List Char} (run : Text.isDigitRun digits = true) :
    ((front ++ [blank] ++ digits).reverse.takeWhile Char.isDigit).reverse = digits ∧
      ((front ++ [blank] ++ digits).reverse.dropWhile Char.isDigit).reverse = front ++ [blank] := by
  have numeric : ∀ c ∈ digits.reverse, c.isDigit = true := by
    intro c member
    have all : digits.all Char.isDigit = true := (Bool.and_eq_true_iff.mp run).2
    exact List.all_eq_true.mp all c (List.mem_reverse.mp member)
  have backward : (front ++ [blank] ++ digits).reverse = digits.reverse ++ blank :: front.reverse := by
    simp
  have stop : ¬ blank.isDigit = true := by simp [apart]
  constructor
  · rw [backward, List.takeWhile_append_of_pos numeric, List.takeWhile_cons_of_neg stop,
      List.append_nil, List.reverse_reverse]
  · rw [backward, List.dropWhile_append_of_pos numeric, List.dropWhile_cons_of_neg stop,
      List.reverse_cons, List.reverse_reverse]

/-- A number is split off together with its label, which does not end in a digit. -/
theorem takeNumber?_eq_some_iff {words front chars : List Char} {blank : Char} {number : Nat}
    (apart : blank.isDigit = false) :
    takeNumber? (words ++ [blank]) chars = some (front, number) ↔
      ∃ digits, chars = front ++ (words ++ [blank]) ++ digits ∧ Writes digits number := by
  have cut (front label : List Char) :
      (front ++ label).take ((front ++ label).length - label.length) = front := by simp
  simp only [takeNumber?, Option.ite_none_right_eq_some, Bool.and_eq_true, decide_eq_true_eq,
    List.isSuffixOf_iff_suffix]
  constructor
  · intro given
    obtain ⟨⟨⟨run, before, labelled⟩, bounded⟩, taken⟩ := given
    rw [← labelled, cut] at taken
    obtain ⟨rfl, rfl⟩ := Prod.mk.inj (Option.some.inj taken)
    refine ⟨_, ?_, run, rfl, bounded⟩
    rw [labelled, ← List.reverse_append, List.takeWhile_append_dropWhile, List.reverse_reverse]
  · intro given
    obtain ⟨digits, rfl, run, rfl, bounded⟩ := given
    obtain ⟨taken, dropped⟩ := splitDigits apart (front ++ words) run
    rw [← List.append_assoc front, taken, dropped, List.append_assoc front, cut]
    exact ⟨⟨⟨run, List.suffix_append front _⟩, bounded⟩, rfl⟩

/-- The place that is found in a message is the one that it ends in. -/
theorem locationOf?_eq_some_iff (message : String) (place : Location) :
    locationOf? message.toList = some place ↔ EndsIn message place := by
  have blank : ' '.isDigit = false := rfl
  have columnLabel : ", Column: ".toList = ", Column:".toList ++ [' '] := by decide
  have lineLabel : "at Line: ".toList = "at Line:".toList ++ [' '] := by decide
  unfold locationOf?
  rw [columnLabel, lineLabel]
  simp only [Option.bind_eq_bind, Option.bind_eq_some_iff, Prod.exists, takeNumber?_eq_some_iff blank]
  rw [← columnLabel, ← lineLabel]
  constructor
  · intro found
    obtain ⟨_, _, ⟨column, whole, columnWritten⟩, found⟩ := found
    obtain ⟨front, _, ⟨line, rfl, lineWritten⟩, made⟩ := found
    obtain rfl := Option.some.inj made
    refine ⟨.ofList front, .ofList line, .ofList column, ?_, ?_, ?_⟩
    · apply String.toList_inj.mp
      simp only [String.toList_append, String.toList_ofList]
      exact whole
    · rwa [String.toList_ofList]
    · rwa [String.toList_ofList]
  · intro named
    obtain ⟨front, line, column, rfl, lineWritten, columnWritten⟩ := named
    refine ⟨front.toList ++ "at Line: ".toList ++ line.toList, place.column, ?_, ?_⟩
    · exact ⟨column.toList, by simp only [String.toList_append], columnWritten⟩
    · exact ⟨front.toList, place.line, ⟨line.toList, rfl, lineWritten⟩, rfl⟩

/-- The offset is told by the place that a message ends in, if its line is not zero. -/
theorem cursorPosition_of_endsIn {sql message : String} {place : Location} (named : EndsIn message place) :
    cursorPosition sql message =
      if place.line = 0 then sql.length + 1 else charsBefore place.line sql.toList + place.column := by
  unfold cursorPosition
  rw [(locationOf?_eq_some_iff message place).mpr named]
  obtain ⟨line, column⟩ := place
  cases line with
  | zero => rfl
  | succ line => rfl

theorem cursorPosition_of_not_endsIn {message : String} (sql : String)
    (unnamed : ∀ place, ¬ EndsIn message place) : cursorPosition sql message = sql.length + 1 := by
  have missing : locationOf? message.toList = none := by
    rw [Option.eq_none_iff_forall_ne_some]
    intro place found
    exact unnamed place ((locationOf?_eq_some_iff message place).mp found)
  unfold cursorPosition
  rw [missing]

theorem charsBefore_ofPosition (sql : String) {position : Nat} (first : 1 ≤ position)
    (last : position ≤ sql.length + 1) :
    charsBefore (Location.ofPosition sql position).line sql.toList +
      (Location.ofPosition sql position).column = position := by
  have found := charsBefore_behind (sql.toList.take (position - 1)) (sql.toList.drop (position - 1))
  rw [List.take_append_drop, List.length_take, String.length_toList] at found
  unfold Location.ofPosition
  omega

/-- A message that ends in the place of a character leads back to the offset of that character, counted
in characters, whatever stands in the message before the place. The end of the text counts as one more
character. Messages that end in no place, and those that end in a place with the line zero, lead to the
end. -/
theorem cursorPosition_inverts (sql : String) :
    (∀ position, 1 ≤ position → position ≤ sql.length + 1 →
      Location.start.advance (sql.toList.take (position - 1)) = Location.ofPosition sql position ∧
      ((Location.ofPosition sql position).Fits → ∀ front : String,
        cursorPosition sql (front ++ (Location.ofPosition sql position).render) = position)) ∧
    (∀ message, (∀ place, ¬ EndsIn message place) → cursorPosition sql message = sql.length + 1) ∧
    ∀ message column, EndsIn message ⟨0, column⟩ → cursorPosition sql message = sql.length + 1 := by
  refine ⟨?_, fun message => cursorPosition_of_not_endsIn sql, ?_⟩
  · intro position first last
    refine ⟨Location.advance_start _, ?_⟩
    intro fits front
    have counted : (Location.ofPosition sql position).line ≠ 0 := Nat.succ_ne_zero _
    rw [cursorPosition_of_endsIn (endsIn_render fits front), if_neg counted]
    exact charsBefore_ofPosition sql first last
  · intro message column named
    rw [cursorPosition_of_endsIn named, if_pos rfl]

/-- The newline at the end of a second line, behind a letter of several bytes, and in a message that
quotes another place in a line of its own; a message without a place; and one with the line zero. -/
theorem cursorPosition_inverts_newline :
    Location.ofPosition "é\nab\n" 5 = ⟨2, 3⟩ ∧
      cursorPosition "é\nab\n" ("found: 'at Line: 9, Column: 3\n'" ++ " at Line: 2, Column: 3") = 5 ∧
      cursorPosition "é\nab\n" "at Line: 2, Column: 3." = 6 ∧
      cursorPosition "é\nab\n" ("found: a" ++ " at Line: 0, Column: 3") = 6 := by
  have place : Location.ofPosition "é\nab\n" 5 = ⟨2, 3⟩ := by decide
  obtain ⟨located, unlocated, zero⟩ := cursorPosition_inverts "é\nab\n"
  refine ⟨place, ?_, ?_, ?_⟩
  · have found := (located 5 (by decide) (by decide)).2 (by decide)
      "found: 'at Line: 9, Column: 3\n'"
    rwa [place] at found
  · apply unlocated
    intro place named
    have found := (locationOf?_eq_some_iff _ _).mpr named
    have missing : locationOf? "at Line: 2, Column: 3.".toList = none := by decide
    cases missing.symm.trans found
  · have fits : Location.Fits ⟨0, 3⟩ := by decide
    exact zero _ 3 (endsIn_render fits "found: a")

end SqlBinding.Sql
