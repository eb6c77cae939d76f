/-!
The quoted form in which diagnostics print names, and the bracketed list of quoted names. A name stands
between single quotes, or between double quotes when it holds a single quote and no double one. Backslash,
line feed, carriage return, tab and the chosen quote are written as two characters, all else as it is.
-/

namespace Compliance.Text

/-- The quote that a name is written in. -/
def quoteFor (name : List Char) : Char :=
  if name.contains '\'' && !name.contains '"' then '"' else '\''

/-- One character of a name written between two `quote`s. -/
def quotedChar (quote c : Char) : List Char :=
  if c = '\\' then ['\\', '\\']
  else if c = '\n' then ['\\', 'n']
  else if c = '\r' then ['\\', 'r']
  else if c = '\t' then ['\\', 't']
  else if c = quote then ['\\', c]
  else [c]

def quoted (name : List Char) : List Char :=
  quoteFor name :: (name.flatMap (quotedChar (quoteFor name)) ++ [quoteFor name])

/-- Quoted names between brackets, with a comma and a blank between two of them. -/
def quotedList (names : List String) : String :=
  "[" ++ ", ".intercalate (names.map fun name => String.ofList (quoted name.toList)) ++ "]"

/-- Characters that break or shift a line. None of them is ever written. -/
def layoutChars : List Char := ['\n', '\r', '\t']

theorem not_mem_quotedChar {raw quote : Char} (hraw : raw ∈ layoutChars) (hquote : raw ≠ quote) (c : Char) :
    raw ∉ quotedChar quote c := by
  simp only [layoutChars, List.mem_cons, List.not_mem_nil, or_false] at hraw
  unfold quotedChar
  rcases hraw with rfl | rfl | rfl <;> grind

theorem quoteFor_eq (name : List Char) : quoteFor name = '\'' ∨ quoteFor name = '"' := by
  unfold quoteFor
  split
  · exact .inr rfl
  · exact .inl rfl

theorem ne_quoteFor {raw : Char} (hraw : raw ∈ layoutChars) (name : List Char) : raw ≠ quoteFor name := by
  rintro rfl
  rcases quoteFor_eq name with hquote | hquote <;> rw [hquote] at hraw <;> exact absurd hraw (by decide)

theorem not_mem_quoted {raw : Char} (hraw : raw ∈ layoutChars) (name : List Char) : raw ∉ quoted name := by
  have hquote := ne_quoteFor hraw name
  simp only [quoted, List.mem_cons, List.mem_append, List.mem_flatMap, List.not_mem_nil, or_false,
    not_or, not_exists, not_and]
  exact ⟨hquote, fun c _ => not_mem_quotedChar hraw hquote c, hquote⟩

theorem not_mem_intercalate {raw : Char} {mark : String} {texts : List String} (hmark : raw ∉ mark.toList)
    (htexts : ∀ text ∈ texts, raw ∉ text.toList) : raw ∉ (mark.intercalate texts).toList := by
  induction texts with
  | nil => simp
  | cons text rest ih =>
    obtain ⟨htext, hrest⟩ := List.forall_mem_cons.1 htexts
    cases rest with
    | nil => simpa using htext
    | cons second others =>
      rw [String.intercalate_cons_cons, String.toList_append, String.toList_append]
      simp only [List.mem_append, not_or]
      exact ⟨⟨htext, hmark⟩, ih hrest⟩

/-- Whatever names are listed, the list stays on one line. -/
theorem not_mem_quotedList {raw : Char} (hraw : raw ∈ layoutChars) (names : List String) :
    raw ∉ (quotedList names).toList := by
  have hmarks : raw ∉ ", ".toList ∧ raw ∉ "[".toList ∧ raw ∉ "]".toList := by
    simp only [layoutChars, List.mem_cons, List.not_mem_nil, or_false] at hraw
    rcases hraw with rfl | rfl | rfl <;> decide
  have hjoined : raw ∉ (", ".intercalate (names.map fun name => String.ofList (quoted name.toList))).toList := by
    refine not_mem_intercalate hmarks.1 fun text htext => ?_
    obtain ⟨name, _, rfl⟩ := List.mem_map.1 htext
    simpa using not_mem_quoted hraw name.toList
  rw [quotedList, String.toList_append, String.toList_append]
  simp only [List.mem_append, not_or]
  exact ⟨⟨hmarks.2.1, hjoined⟩, hmarks.2.2⟩

end Compliance.Text
