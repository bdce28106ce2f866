import Mathlib.Data.List.Induction
import Mathlib.Data.Nat.Digits.Defs
import SqlBinding.Param

namespace SqlBinding

namespace Text

theorem natOfDigits_toDigits (number : Nat) : natOfDigits (Nat.toDigits 10 number) = number :=
  Nat.ofDigitChars_toDigits (by decide) (by decide)

theorem isDigitRun_toDigits (number : Nat) : isDigitRun (Nat.toDigits 10 number) = true := by
  have digits : ∀ c ∈ Nat.toDigits 10 number, c.isDigit = true :=
    fun c member => Nat.isDigit_of_mem_toDigits (by decide) (by decide) member
  simp [isDigitRun, Nat.toDigits_ne_nil, List.all_eq_true.mpr digits]

/-- The value of decimal digits by their places: the last digit counts once, and each digit before it
counts ten times as much as the next. -/
def decimalValue (digits : List Char) : Nat :=
  Nat.ofDigits 10 (digits.reverse.map fun c => c.toNat - '0'.toNat)

/-- One or more of the ten digits, and the number that they write. -/
structure Denotes (digits : String) (number : Nat) : Prop where
  nonempty : digits ≠ ""
  digit : ∀ c ∈ digits.toList, '0' ≤ c ∧ c ≤ '9'
  value : decimalValue digits.toList = number

/-- Going through digits from the left finds the value that they have by their places. -/
theorem natOfDigits_eq_decimalValue (digits : List Char) : natOfDigits digits = decimalValue digits := by
  rw [natOfDigits, decimalValue, Nat.ofDigits_eq_foldr, List.foldr_map, List.foldr_reverse]
  simp only [Nat.cast_id, Nat.add_comm]

theorem denotes_iff (digits : String) (number : Nat) :
    Denotes digits number ↔
      isDigitRun digits.toList = true ∧ natOfDigits digits.toList = number := by
  have digit (c : Char) : c.isDigit = true ↔ '0' ≤ c ∧ c ≤ '9' := Char.isDigit_iff_toNat
  have run : isDigitRun digits.toList = true ↔
      digits ≠ "" ∧ ∀ c ∈ digits.toList, '0' ≤ c ∧ c ≤ '9' := by
    simp [isDigitRun, digit]
  rw [run, natOfDigits_eq_decimalValue]
  constructor
  · intro denoted
    exact ⟨⟨denoted.nonempty, denoted.digit⟩, denoted.value⟩
  · intro given
    exact ⟨given.1.1, given.1.2, given.2⟩

/-- The ten digits are the characters of the numbers below ten. -/
theorem exists_digitChar {c : Char} (digit : c.isDigit = true) : ∃ value < 10, value.digitChar = c := by
  obtain ⟨low, high⟩ := Char.isDigit_iff_toNat.mp digit
  have zero : '0'.toNat = 48 := rfl
  have nine : '9'.toNat = 57 := rfl
  have small : c.toNat - 48 < 10 := by omega
  refine ⟨c.toNat - 48, small, Char.toNat_inj.mp ?_⟩
  rw [Nat.toNat_digitChar_of_lt_ten small]
  omega

theorem natOfDigits_concat (digits : List Char) {value : Nat} (small : value < 10) :
    natOfDigits (digits ++ [value.digitChar]) = 10 * natOfDigits digits + value := by
  have last : value.digitChar.toNat - '0'.toNat = value := Nat.toNat_digitChar_sub_48_of_lt_ten small
  rw [natOfDigits, List.foldl_append, List.foldl_cons, List.foldl_nil, last]
  rfl

/-- Digits are zeros and then the shortest digits of their value; here zero has no digits. From the end:
one more digit extends the digits of a number, and behind zeros it begins them. -/
theorem exists_zeros {digits : List Char} (numeric : ∀ c ∈ digits, c.isDigit = true) :
    ∃ zeros, digits = List.replicate zeros '0' ++
      if natOfDigits digits = 0 then [] else Nat.toDigits 10 (natOfDigits digits) := by
  induction digits using List.reverseRecOn with
  | nil => exact ⟨0, rfl⟩
  | append_singleton earlier c ih =>
    obtain ⟨zeros, written⟩ := ih fun c member => numeric c (List.mem_append_left _ member)
    obtain ⟨last, small, rfl⟩ := exists_digitChar (numeric c (by simp))
    have digit : Nat.toDigits 10 last = [last.digitChar] := Nat.toDigits_of_lt_base small
    rw [natOfDigits_concat earlier small]
    by_cases blank : natOfDigits earlier = 0
    · rw [if_pos blank, List.append_nil] at written
      rw [blank, Nat.mul_zero, Nat.zero_add]
      by_cases zero : last = 0
      · subst zero
        refine ⟨zeros + 1, ?_⟩
        rw [if_pos rfl, List.append_nil, List.replicate_succ', written]
        rfl
      · refine ⟨zeros, ?_⟩
        rw [if_neg zero, digit, written]
    · have positive : 0 < natOfDigits earlier := Nat.pos_of_ne_zero blank
      refine ⟨zeros, ?_⟩
      rw [if_neg (by omega), ← Nat.toDigits_append_toDigits (by decide) positive small, digit,
        ← List.append_assoc]
      rw [if_neg blank] at written
      rw [← written]

/-- Zeros in front do not count. -/
theorem natOfDigits_zeros (zeros : Nat) (digits : List Char) :
    natOfDigits (List.replicate zeros '0' ++ digits) = natOfDigits digits := by
  induction zeros with
  | zero => rfl
  | succ zeros ih => exact ih

theorem isDigitRun_zeros (zeros : Nat) {digits : List Char} (run : isDigitRun digits = true) :
    isDigitRun (List.replicate zeros '0' ++ digits) = true := by
  induction zeros with
  | zero => exact run
  | succ zeros ih => exact (Bool.and_eq_true_iff.mp ih).2

/-- The digits of a positive number are its shortest ones with any number of zeros in front. -/
theorem denotes_iff_zeros {number : Nat} (positive : 0 < number) (digits : String) :
    Denotes digits number ↔
      ∃ zeros, digits = String.ofList (List.replicate zeros '0') ++ toString number := by
  rw [denotes_iff]
  constructor
  · intro given
    obtain ⟨run, rfl⟩ := given
    have numeric : ∀ c ∈ digits.toList, c.isDigit = true :=
      List.all_eq_true.mp (Bool.and_eq_true_iff.mp run).2
    obtain ⟨zeros, written⟩ := exists_zeros numeric
    rw [if_neg (Nat.ne_of_gt positive)] at written
    refine ⟨zeros, String.toList_inj.mp ?_⟩
    rw [String.toList_append, String.toList_ofList, Nat.toString_eq_repr, Nat.toList_repr]
    exact written
  · intro given
    obtain ⟨zeros, rfl⟩ := given
    rw [String.toList_append, String.toList_ofList, Nat.toString_eq_repr, Nat.toList_repr]
    refine ⟨isDigitRun_zeros zeros (isDigitRun_toDigits number), ?_⟩
    rw [natOfDigits_zeros, natOfDigits_toDigits]

end Text

namespace Param

theorem ofNat?_number (param : Param) : ofNat? param.number = some param :=
  dif_pos ⟨param.positive, param.bounded⟩

/-- A run of digits stands for the parameter of its number, as it has no sign in front. -/
theorem ofDigits?_of_isDigitRun {digits : List Char} (run : Text.isDigitRun digits = true) :
    ofDigits? digits = ofNat? (Text.natOfDigits digits) := by
  unfold ofDigits?
  split
  case h_1 rest => simp [Text.isDigitRun] at run
  case h_2 => rw [if_pos run]

/-- A parameter is read back from its text. -/
theorem ofText?_render (param : Param) : ofText? param.render = some param := by
  have chars : param.render.toList = '$' :: Nat.toDigits 10 param.number := by
    simp [render, String.toList_append, Nat.toString_eq_repr, Nat.toList_repr]
  rw [ofText?, chars, ofChars?, ofDigits?_of_isDigitRun (Text.isDigitRun_toDigits _),
    Text.natOfDigits_toDigits, ofNat?_number]

/-- A text that names a number: a dollar sign, a plus sign or none, and digits that write the number. -/
def Names (text : String) (number : Nat) : Prop :=
  ∃ sign digits : String, text = "$" ++ sign ++ digits ∧ (sign = "" ∨ sign = "+") ∧
    Text.Denotes digits number

/-- A text names one number at most, as a sign is no digit. -/
theorem Names.unique {text : String} {number other : Nat} (named : Names text number)
    (again : Names text other) : number = other := by
  obtain ⟨sign, digits, rfl, signed, denoted⟩ := named
  obtain ⟨_, others, same, signedAgain, denotedAgain⟩ := again
  have unsigned {digits rest : String} {value : Nat} (denoted : Text.Denotes digits value) :
      digits ≠ "+" ++ rest := by
    rintro rfl
    exact absurd (denoted.digit '+' (by simp)).1 (by decide)
  have valued (equal : digits = others) : number = other := by
    rw [← denoted.value, equal, denotedAgain.value]
  rw [String.append_assoc, String.append_assoc, String.append_right_inj] at same
  rcases signed with rfl | rfl <;> rcases signedAgain with rfl | rfl
  · exact valued (by simpa using same)
  · exact absurd (by simpa using same) (unsigned denoted)
  · exact absurd (by simpa using same.symm) (unsigned denotedAgain)
  · exact valued ((String.append_right_inj _).mp same)

theorem ofNat?_eq_some_iff {number : Nat} {param : Param} :
    ofNat? number = some param ↔ number = param.number := by
  constructor
  · intro found
    unfold ofNat? at found
    split at found
    · exact congrArg Param.number (Option.some.inj found)
    · cases found
  · intro same
    rw [same, ofNat?_number]

theorem ofDigits?_eq_some_iff (chars : List Char) (param : Param) :
    ofDigits? chars = some param ↔
      ∃ sign digits, chars = sign ++ digits ∧ (sign = [] ∨ sign = ['+']) ∧
        Text.isDigitRun digits = true ∧ Text.natOfDigits digits = param.number := by
  constructor
  · intro found
    unfold ofDigits? at found
    split at found
    case h_1 digits =>
      obtain ⟨run, numbered⟩ := Option.ite_none_right_eq_some.mp found
      exact ⟨['+'], digits, rfl, .inr rfl, run, ofNat?_eq_some_iff.mp numbered⟩
    case h_2 =>
      obtain ⟨run, numbered⟩ := Option.ite_none_right_eq_some.mp found
      exact ⟨[], chars, rfl, .inl rfl, run, ofNat?_eq_some_iff.mp numbered⟩
  · intro given
    obtain ⟨sign, digits, rfl, rfl | rfl, run, value⟩ := given
    · rw [List.nil_append, ofDigits?_of_isDigitRun run]
      exact ofNat?_eq_some_iff.mpr value
    · rw [List.singleton_append, ofDigits?, if_pos run]
      exact ofNat?_eq_some_iff.mpr value

theorem ofChars?_eq_some_iff (chars : List Char) (param : Param) :
    ofChars? chars = some param ↔ ∃ rest, chars = '$' :: rest ∧ ofDigits? rest = some param := by
  unfold ofChars?
  split
  case h_1 rest => simp
  case h_2 unmarked =>
    constructor
    · intro found
      cases found
    · intro given
      obtain ⟨rest, marked, _⟩ := given
      exact absurd marked (unmarked rest)

/-- The parameter that a text stands for is the one whose ordinal the text names. -/
theorem ofText?_eq_some_iff (text : String) (param : Param) :
    ofText? text = some param ↔ Names text param.number := by
  rw [ofText?, ofChars?_eq_some_iff]
  constructor
  · intro found
    obtain ⟨rest, whole, found⟩ := found
    obtain ⟨sign, digits, rfl, signed, run, value⟩ := (ofDigits?_eq_some_iff rest param).mp found
    refine ⟨.ofList sign, .ofList digits, ?_, ?_, ?_⟩
    · apply String.toList_inj.mp
      simp [whole]
    · exact signed.imp (congrArg String.ofList) (congrArg String.ofList)
    · rw [Text.denotes_iff, String.toList_ofList]
      exact ⟨run, value⟩
  · intro named
    obtain ⟨sign, digits, rfl, signed, denoted⟩ := named
    obtain ⟨run, value⟩ := (Text.denotes_iff digits param.number).mp denoted
    refine ⟨sign.toList ++ digits.toList, by simp, (ofDigits?_eq_some_iff _ param).mpr ?_⟩
    exact ⟨_, _, rfl, signed.imp (congrArg String.toList) (congrArg String.toList), run, value⟩

theorem read_eq_ok_iff (text : String) (param : Param) :
    read text = .ok param ↔ Names text param.number := by
  rw [← ofText?_eq_some_iff]
  unfold read
  split
  case h_1 found => simp [found]
  case h_2 missing => simp [missing]

/-- A text is refused as it stands, if it names the number of no parameter. -/
theorem read_eq_error_iff (text : String) (fault : InvalidParam) :
    read text = .error fault ↔ fault = ⟨text⟩ ∧ ∀ param : Param, ¬ Names text param.number := by
  simp only [← ofText?_eq_some_iff]
  unfold read
  split
  case h_1 found => simp [found]
  case h_2 missing => simp [missing, eq_comm]

theorem map_read_eq_ok_iff (text : String) (number : Nat) :
    (read text).map Param.number = .ok number ↔ Names text number ∧ 1 ≤ number ∧ number ≤ 65535 := by
  constructor
  · intro accepted
    cases outcome : read text with
    | error fault =>
      rw [outcome] at accepted
      cases accepted
    | ok param =>
      rw [outcome] at accepted
      obtain rfl : param.number = number := Except.ok.inj accepted
      exact ⟨(read_eq_ok_iff text param).mp outcome, param.positive, param.bounded⟩
  · intro given
    obtain ⟨named, positive, bounded⟩ := given
    rw [(read_eq_ok_iff text ⟨number, positive, bounded⟩).mpr named]
    rfl

/-- The texts that name a positive number differ in a plus sign and in zeros only. -/
theorem names_iff_zeros {number : Nat} (positive : 0 < number) (text : String) :
    Names text number ↔
      ∃ sign zeros, (sign = "" ∨ sign = "+") ∧
        text = "$" ++ sign ++ (String.ofList (List.replicate zeros '0') ++ toString number) := by
  simp only [Names, Text.denotes_iff_zeros positive]
  constructor
  · intro named
    obtain ⟨sign, digits, written, signed, zeros, rfl⟩ := named
    exact ⟨sign, zeros, signed, written⟩
  · intro given
    obtain ⟨sign, zeros, signed, written⟩ := given
    exact ⟨sign, _, written, signed, zeros, rfl⟩

end Param
end SqlBinding
