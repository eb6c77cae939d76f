/-!
Looking names up in lists of named values: the members of an object, the entries
of a directory, the documents of a corpus.
-/

namespace Compliance

variable {β : Type} {entries : List (String × β)}

theorem lookup_cons_eq (name other : String) (value : β) (entries : List (String × β)) :
    ((name, value) :: entries).lookup other =
      if other = name then some value else entries.lookup other := by
  by_cases h : other = name
  · simp [h]
  · have hbeq : (other == name) = false := by simpa using h
    rw [List.lookup_cons, hbeq, if_neg h]

/-- Among distinct names every entry is found. -/
theorem lookup_of_mem {entry : String × β} (hnodup : (entries.map Prod.fst).Nodup)
    (h : entry ∈ entries) : entries.lookup entry.1 = some entry.2 := by
  induction entries with
  | nil => cases h
  | cons head rest ih =>
    obtain ⟨hhead, hrest⟩ := List.nodup_cons.mp hnodup
    rw [lookup_cons_eq]
    rcases List.mem_cons.mp h with rfl | hm
    · exact if_pos rfl
    · have hdiffer : entry.1 ≠ head.1 := by
        intro hsame
        exact hhead (hsame ▸ List.mem_map_of_mem hm)
      rw [if_neg hdiffer]
      exact ih hrest hm

theorem mem_of_lookup {name : String} {value : β}
    (h : entries.lookup name = some value) : (name, value) ∈ entries := by
  obtain ⟨front, behind, rfl, _⟩ := List.lookup_eq_some_iff.mp h
  exact List.mem_append_right front List.mem_cons_self

/-- Taking one name out does not change what the others stand for. -/
theorem lookup_filter_ne {name other : String} (h : other ≠ name)
    (entries : List (String × β)) :
    (entries.filter (·.1 != name)).lookup other = entries.lookup other := by
  induction entries with
  | nil => rfl
  | cons head rest ih =>
    obtain ⟨first, value⟩ := head
    rw [List.filter_cons, lookup_cons_eq]
    by_cases hfirst : first = name
    · simpa [hfirst, h] using ih
    · simp only [bne_iff_ne, ne_eq, hfirst, not_false_eq_true, if_true,
        lookup_cons_eq, ih]

end Compliance
