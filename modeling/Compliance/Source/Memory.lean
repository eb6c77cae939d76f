import Compliance.Document

/-!
An in-memory corpus. Documents are kept under the paths they were inserted at; a directory exists as long as some
document is stored below it.
-/

namespace Compliance

/-- Contents by path, each path at most once. -/
structure MemorySource where
  entries : List (String × String)
  distinct : (entries.map Prod.fst).Nodup
  deriving DecidableEq

namespace MemorySource

def empty : MemorySource := ⟨[], .nil⟩

instance : Inhabited MemorySource := ⟨empty⟩

def content? (memory : MemorySource) (path : String) : Option String := memory.entries.lookup path

/-- The entries at other paths than this one. -/
def without (path : String) (entries : List (String × String)) : List (String × String) :=
  entries.filter fun entry => entry.1 != path

theorem not_mem_without (path : String) (entries : List (String × String)) :
    path ∉ (without path entries).map Prod.fst := by
  simp [without]

theorem nodup_without {path : String} {entries : List (String × String)}
    (h : (entries.map Prod.fst).Nodup) : ((without path entries).map Prod.fst).Nodup :=
  h.sublist (List.filter_sublist.map _)

def erase (memory : MemorySource) (path : String) : MemorySource :=
  ⟨without path memory.entries, nodup_without memory.distinct⟩

/-- Takes the document at a path out: its content, if there was one, and the corpus that is left. -/
def remove (memory : MemorySource) (path : String) : Option String × MemorySource :=
  (memory.content? path, memory.erase path)

/-- The content that was stored at the path before is given up. -/
def insert (memory : MemorySource) (path content : String) : MemorySource :=
  ⟨(path, content) :: without path memory.entries,
    List.nodup_cons.2 ⟨not_mem_without path memory.entries, nodup_without memory.distinct⟩⟩

def ofList (documents : List (String × String)) : MemorySource :=
  documents.foldl (fun memory (path, content) => memory.insert path content) empty

/-- A path as a directory: with one slash in the stead of those it ends in. -/
def directoryPrefix (path : List Char) : List Char :=
  (path.reverse.dropWhile (· = '/')).reverse ++ ['/']

def has (memory : MemorySource) (path : String) : Bool :=
  (memory.content? path).isSome ||
    memory.entries.any fun entry => (directoryPrefix path.toList).isPrefixOf entry.1.toList

def source (memory : MemorySource) : Source where
  has := memory.has
  read := fun path => .ok (memory.content? path)

theorem lookup_without_self (path : String) (entries : List (String × String)) :
    (without path entries).lookup path = none := by
  induction entries with
  | nil => rfl
  | cons entry rest ih =>
    obtain ⟨name, text⟩ := entry
    unfold without at ih ⊢
    by_cases h : name = path
    · simpa [List.filter_cons, h] using ih
    · have hne : (path == name) = false := by simpa using Ne.symm h
      simpa [List.filter_cons, h, List.lookup_cons, hne] using ih

theorem lookup_without_of_ne {path other : String} (h : other ≠ path)
    (entries : List (String × String)) : (without path entries).lookup other = entries.lookup other := by
  induction entries with
  | nil => rfl
  | cons entry rest ih =>
    obtain ⟨name, text⟩ := entry
    unfold without at ih ⊢
    by_cases hname : name = path
    · subst hname
      have hne : (other == name) = false := by simpa using h
      rw [List.lookup_cons, hne]
      simpa [List.filter_cons] using ih
    · simp only [List.filter_cons, bne_iff_ne, ne_eq, hname, not_false_eq_true, if_true,
        List.lookup_cons]
      split <;> simp_all

theorem content?_insert_self (memory : MemorySource) (path content : String) :
    (memory.insert path content).content? path = some content := by
  simp [content?, insert]

theorem content?_insert_of_ne (memory : MemorySource) {path other : String} (content : String)
    (h : other ≠ path) : (memory.insert path content).content? other = memory.content? other := by
  have hne : (other == path) = false := by simpa using h
  simp only [content?, insert, List.lookup_cons, hne]
  exact lookup_without_of_ne h memory.entries

theorem content?_erase_self (memory : MemorySource) (path : String) :
    (memory.erase path).content? path = none := lookup_without_self path memory.entries

theorem content?_erase_of_ne (memory : MemorySource) {path other : String} (h : other ≠ path) :
    (memory.erase path).content? other = memory.content? other :=
  lookup_without_of_ne h memory.entries

end MemorySource

end Compliance
