/-!
Finite sets of names. A set is the list of its members in strictly ascending order of code points, so two
sets with the same members are equal and printing a set needs no further sorting.
-/

namespace Compliance

structure NameSet where
  names : List String
  ascending : names.Pairwise (· < ·)
  deriving DecidableEq

namespace NameSet

/-- Puts a name at its place in an ascending list; a name that is there already is kept once. -/
def insertName (name : String) : List String → List String
  | [] => [name]
  | head :: rest =>
    if name < head then name :: head :: rest
    else if name = head then head :: rest
    else head :: insertName name rest

theorem mem_insertName {name other : String} {names : List String} :
    other ∈ insertName name names ↔ other = name ∨ other ∈ names := by
  induction names with
  | nil => simp [insertName]
  | cons head rest ih =>
    rw [insertName]
    split
    · simp
    split
    · next h => subst h; simp
    · simp only [List.mem_cons, ih]
      exact or_left_comm

theorem lt_of_not_lt_of_ne {a b : String} (hlt : ¬a < b) (hne : a ≠ b) : b < a := by
  have := String.le_total a b
  grind

theorem insertName_pairwise {name : String} {names : List String} (h : names.Pairwise (· < ·)) :
    (insertName name names).Pairwise (· < ·) := by
  induction names with
  | nil => simp [insertName]
  | cons head rest ih =>
    obtain ⟨hhead, hrest⟩ := List.pairwise_cons.1 h
    rw [insertName]
    split
    · next hlt =>
      refine List.pairwise_cons.2 ⟨fun other hm => ?_, h⟩
      rcases List.mem_cons.1 hm with rfl | hm
      · exact hlt
      · exact String.lt_trans hlt (hhead _ hm)
    split
    · exact h
    · next hlt hne =>
      refine List.pairwise_cons.2 ⟨fun other hm => ?_, ih hrest⟩
      rcases mem_insertName.1 hm with rfl | hm
      · exact lt_of_not_lt_of_ne hlt hne
      · exact hhead _ hm

def empty : NameSet := ⟨[], .nil⟩

instance : Inhabited NameSet := ⟨empty⟩

def insert (set : NameSet) (name : String) : NameSet :=
  ⟨insertName name set.names, insertName_pairwise set.ascending⟩

def ofList (names : List String) : NameSet := names.foldl insert empty

def contains (set : NameSet) (name : String) : Bool := set.names.contains name

def isEmpty (set : NameSet) : Bool := set.names.isEmpty

/-- The members of the first set that the second one lacks. -/
def difference (set other : NameSet) : NameSet :=
  ⟨set.names.filter fun name => !other.contains name, set.ascending.filter _⟩

instance : Membership String NameSet := ⟨fun set name => name ∈ set.names⟩

theorem mem_def {set : NameSet} {name : String} : name ∈ set ↔ name ∈ set.names := Iff.rfl

theorem contains_iff {set : NameSet} {name : String} : set.contains name = true ↔ name ∈ set := by
  simp [contains, mem_def]

theorem mem_insert {set : NameSet} {name other : String} :
    other ∈ set.insert name ↔ other = name ∨ other ∈ set := mem_insertName

theorem mem_foldl_insert {names : List String} {set : NameSet} {name : String} :
    name ∈ names.foldl insert set ↔ name ∈ set ∨ name ∈ names := by
  induction names generalizing set with
  | nil => simp
  | cons head rest ih =>
    rw [List.foldl_cons, ih, mem_insert, List.mem_cons]
    constructor
    · rintro ((h | h) | h)
      · exact .inr (.inl h)
      · exact .inl h
      · exact .inr (.inr h)
    · rintro (h | h | h)
      · exact .inl (.inr h)
      · exact .inl (.inl h)
      · exact .inr h

theorem mem_ofList {names : List String} {name : String} : name ∈ ofList names ↔ name ∈ names := by
  rw [ofList, mem_foldl_insert]
  simp [empty, mem_def]

theorem mem_difference {set other : NameSet} {name : String} :
    name ∈ set.difference other ↔ name ∈ set ∧ name ∉ other := by
  simp [difference, mem_def, contains]

end NameSet

end Compliance
