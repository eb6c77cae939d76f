import Compliance.Proofs.NamedValues
import Compliance.Source.Memory

/-!
What a corpus in memory answers, in terms of the contents that it keeps. A document is
loaded from the path it is stored at and from no other; a path is there if something is
stored at it, or below it as a directory. So a new content at a path that is in use
changes the document at that path, and nothing else.
-/

namespace Compliance.MemorySource

variable {memory : MemorySource} {path other content : String}

theorem content?_eq_some_iff {text : String} :
    memory.content? path = some text ↔ (path, text) ∈ memory.entries := by
  constructor
  · exact mem_of_lookup
  · exact lookup_of_mem memory.distinct

theorem has_iff_content? :
    memory.has path = true ↔
      ∃ stored text, memory.content? stored = some text ∧
        (stored = path ∨ directoryPrefix path.toList <+: stored.toList) := by
  simp only [has, Bool.or_eq_true, Option.isSome_iff_exists, List.any_eq_true,
    List.isPrefixOf_iff_prefix]
  constructor
  · rintro (⟨text, hstored⟩ | ⟨⟨stored, text⟩, hentry, hbelow⟩)
    · exact ⟨path, text, hstored, .inl rfl⟩
    · exact ⟨stored, text, content?_eq_some_iff.mpr hentry, .inr hbelow⟩
  · rintro ⟨stored, text, hstored, rfl | hbelow⟩
    · exact .inl ⟨text, hstored⟩
    · exact .inr ⟨(stored, text), content?_eq_some_iff.mp hstored, hbelow⟩

theorem load_source :
    memory.source.load path = .ok ((memory.content? path).map fun text => ⟨path, text⟩) :=
  rfl

theorem load_insert_self :
    (memory.insert path content).source.load path = .ok (some ⟨path, content⟩) := by
  rw [load_source, content?_insert_self]
  rfl

theorem read_insert_of_ne (h : other ≠ path) :
    (memory.insert path content).source.read other = memory.source.read other :=
  congrArg Except.ok (content?_insert_of_ne memory content h)

/-- No path comes or goes when the content at a path in use is replaced. -/
theorem has_insert_of_content? {old : String} (hold : memory.content? path = some old) :
    (memory.insert path content).has = memory.has := by
  have hkept (stored : String) :
      (∃ text, (memory.insert path content).content? stored = some text) ↔
        ∃ text, memory.content? stored = some text := by
    by_cases h : stored = path
    · subst h
      rw [content?_insert_self, hold]
      simp
    · rw [content?_insert_of_ne memory content h]
  funext other
  rw [Bool.eq_iff_iff, has_iff_content?, has_iff_content?]
  simp only [exists_and_right, hkept]

end Compliance.MemorySource
