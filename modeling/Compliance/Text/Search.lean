/-!
Substring search. A snippet or a marker is found in a document when its characters occur there as one
unbroken run; `occursIn_iff` says so in terms of the library's infix relation.
-/

namespace Compliance.Text

/-- The empty needle occurs in every text. -/
def occursIn (needle : List Char) : List Char → Bool
  | [] => needle.isEmpty
  | c :: rest => needle.isPrefixOf (c :: rest) || occursIn needle rest

theorem occursIn_iff {needle text : List Char} :
    occursIn needle text = true ↔ needle <:+: text := by
  induction text with
  | nil => simp [occursIn]
  | cons c rest ih =>
    rw [occursIn, Bool.or_eq_true, List.isPrefixOf_iff_prefix, ih, List.infix_cons_iff]

end Compliance.Text
