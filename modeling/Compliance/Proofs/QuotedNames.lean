import Compliance.Proofs.RequirementVerdicts

/-!
Reading the names of a quoted list back. A reader goes through the list character by
character and knows where it is: between two names, inside a name, or behind a
backslash in it. Commas and brackets count for nothing: only a quote opens a name, and
only the same quote without a backslash closes it. Since every list can be read back,
the two lists of a mismatch are told apart by what is printed of them.
-/

namespace Compliance.Text

/-- Where a reader of a quoted list is. Inside a name it keeps the quote that closes
the name, and what it has read of the name. -/
inductive Stage where
  | between
  | inside (quote : Char) (name : List Char)
  | behindBackslash (quote : Char) (name : List Char)

/-- What a character behind a backslash stands for. -/
def unescaped : Char → Char
  | 'n' => '\n'
  | 'r' => '\r'
  | 't' => '\t'
  | c => c

/-- The names that a reader has still to finish. -/
def namesFrom : Stage → List Char → List String
  | _, [] => []
  | .between, c :: rest =>
    if c = '\'' ∨ c = '"' then namesFrom (.inside c []) rest else namesFrom .between rest
  | .inside quote name, c :: rest =>
    if c = '\\' then namesFrom (.behindBackslash quote name) rest
    else if c = quote then String.ofList name :: namesFrom .between rest
    else namesFrom (.inside quote (name ++ [c])) rest
  | .behindBackslash quote name, c :: rest =>
    namesFrom (.inside quote (name ++ [unescaped c])) rest

/-- The names in a quoted list. -/
def listedNames (list : String) : List String := namesFrom .between list.toList

section Name

variable {quote : Char} (hquote : quote = '\'' ∨ quote = '"')
include hquote

/-- A character of a name is written behind a backslash, by what stands for it there, or
as itself if it can be taken neither for a backslash nor for the closing quote. -/
theorem quotedChar_cases (c : Char) :
    (∃ letter, quotedChar quote c = ['\\', letter] ∧ unescaped letter = c) ∨
      quotedChar quote c = [c] ∧ c ≠ '\\' ∧ c ≠ quote := by
  unfold quotedChar
  split
  · next h => exact .inl ⟨'\\', rfl, h.symm⟩
  split
  · next h => exact .inl ⟨'n', rfl, h.symm⟩
  split
  · next h => exact .inl ⟨'r', rfl, h.symm⟩
  split
  · next h => exact .inl ⟨'t', rfl, h.symm⟩
  split
  · next h =>
    subst h
    refine .inl ⟨c, rfl, ?_⟩
    rcases hquote with rfl | rfl <;> rfl
  · next hbackslash _ _ _ hclose => exact .inr ⟨rfl, hbackslash, hclose⟩

/-- One written character takes the reader one character of the name further. -/
theorem namesFrom_quotedChar (c : Char) (name rest : List Char) :
    namesFrom (.inside quote name) (quotedChar quote c ++ rest) =
      namesFrom (.inside quote (name ++ [c])) rest := by
  rcases quotedChar_cases hquote c with
    ⟨letter, hwritten, rfl⟩ | ⟨hwritten, hbackslash, hclose⟩
  · rw [hwritten]
    simp [namesFrom]
  · rw [hwritten]
    simp [namesFrom, hbackslash, hclose]

/-- A name is read to its end, and no closing quote is seen before that. -/
theorem namesFrom_flatMap_quotedChar (written name rest : List Char) :
    namesFrom (.inside quote name) (written.flatMap (quotedChar quote) ++ rest) =
      namesFrom (.inside quote (name ++ written)) rest := by
  induction written generalizing name with
  | nil => simp
  | cons c others ih =>
    rw [List.flatMap_cons, List.append_assoc, namesFrom_quotedChar hquote, ih,
      List.append_assoc]
    rfl

end Name

theorem namesFrom_quoted (name rest : List Char) :
    namesFrom .between (quoted name ++ rest) =
      String.ofList name :: namesFrom .between rest := by
  have hquote := quoteFor_eq name
  have hbackslash : quoteFor name ≠ '\\' := by
    rcases hquote with h | h <;> rw [h] <;> decide
  rw [quoted, List.cons_append, List.append_assoc, namesFrom, if_pos hquote,
    namesFrom_flatMap_quotedChar hquote]
  simp [namesFrom, hbackslash]

/-- Nothing between two names, and nothing around them, is read as a name. -/
theorem namesFrom_intercalate (names : List String) (rest : List Char) :
    namesFrom .between
        ((", ".intercalate
          (names.map fun name => String.ofList (quoted name.toList))).toList ++ rest) =
      names ++ namesFrom .between rest := by
  induction names with
  | nil => simp
  | cons name others ih =>
    cases others with
    | nil => simp [namesFrom_quoted]
    | cons second more =>
      have hmark : ", ".toList = [',', ' '] := rfl
      rw [List.map_cons] at ih
      rw [List.map_cons, List.map_cons, String.intercalate_cons_cons,
        String.toList_append, String.toList_append, String.toList_ofList,
        List.append_assoc, List.append_assoc, namesFrom_quoted, String.ofList_toList,
        hmark]
      -- No name is open at the mark, so the reader passes it by.
      simpa [namesFrom] using ih

theorem listedNames_quotedList (names : List String) :
    listedNames (quotedList names) = names := by
  rw [listedNames, quotedList, String.toList_append, String.toList_append]
  have hopen : "[".toList = ['['] := rfl
  have hclose : "]".toList = [']'] := rfl
  rw [hopen, hclose, List.append_assoc]
  have hbetween := namesFrom_intercalate names [']']
  simpa [namesFrom] using hbetween

theorem quotedList_injective : Function.Injective quotedList :=
  Function.LeftInverse.injective listedNames_quotedList

/-- A mismatch is reported with two different lists of names. -/
theorem checkEnumEquality_mismatch (path pointer field : String) (value : Json)
    (expected : NameSet) :
    Requirement.checkEnumEquality path pointer field value expected = [] ∨
      ∃ wanted actual,
        Requirement.checkEnumEquality path pointer field value expected =
          [.enumMismatch path field wanted actual] ∧
        wanted ≠ actual := by
  obtain ⟨hmet, hnone | ⟨wanted, actual, hfound, hwanted, hactual⟩⟩ :=
    Requirement.checkEnumEquality_verdict path pointer field expected value
  · exact .inl hnone
  · refine .inr ⟨wanted, actual, hfound, ?_⟩
    rintro rfl
    have hsame := hmet.mpr fun name => (hactual.2 name).symm.trans (hwanted.2 name)
    rw [hfound] at hsame
    cases hsame

/-- One reader gives the names of every quoted list back, whatever is in them. So
different lists are printed differently, on one line each, and a mismatch of an
enumeration shows two lists that differ as texts. -/
theorem quotedList_is_uniquely_readable :
    (∀ names, listedNames (quotedList names) = names) ∧
      Function.Injective quotedList ∧
      (∀ names, '\n' ∉ (quotedList names).toList ∧ '\r' ∉ (quotedList names).toList ∧
        '\t' ∉ (quotedList names).toList) ∧
      ∀ path pointer field value expected,
        Requirement.checkEnumEquality path pointer field value expected = [] ∨
          ∃ wanted actual,
            Requirement.checkEnumEquality path pointer field value expected =
              [.enumMismatch path field wanted actual] ∧
            (Violation.enumMismatch path field wanted actual).message =
              field ++ " enum mismatch: expected " ++ quotedList wanted ++ ", got " ++
                quotedList actual ∧
            quotedList wanted ≠ quotedList actual := by
  refine ⟨listedNames_quotedList, quotedList_injective, ?_, ?_⟩
  · intro names
    have hlayout : ∀ raw ∈ layoutChars, raw ∉ (quotedList names).toList :=
      fun raw hraw => not_mem_quotedList hraw names
    simpa [layoutChars] using hlayout
  · intro path pointer field value expected
    rcases checkEnumEquality_mismatch path pointer field value expected with
      hnone | ⟨wanted, actual, hfound, hdiffer⟩
    · exact .inl hnone
    · exact .inr ⟨wanted, actual, hfound, rfl, quotedList_injective.ne hdiffer⟩

/-- The mark between two names may stand in a name as well. -/
example : quotedList ["a', 'b"] = "[\"a', 'b\"]" ∧ quotedList ["a", "b"] = "['a', 'b']" :=
  ⟨rfl, rfl⟩

end Compliance.Text
