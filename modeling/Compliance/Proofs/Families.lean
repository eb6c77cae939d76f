import Compliance.Config.Validation
import Compliance.Gate

/-!
The families of an accepted configuration. Validation walks the families with
the names that it has seen so far, and what it accepts is exactly a list of
pairwise different names, with documents in each family and snippets for each document,
though a snippet may be the empty text. A gate keeps
only the name of its family and looks the entry up again, so different names are
what makes every gate run on its own entry.
-/

namespace Compliance.Config

/-- There are documents to check, and in each of them snippets to look for. -/
def HasEvidence (family : EvidenceConfig) : Prop :=
  family.documents ≠ [] ∧ ∀ document ∈ family.documents, document.snippets ≠ []

/-- One step of the walk over the families. -/
theorem validateFamilies_cons_ok_iff (seen : List String) (family : EvidenceConfig)
    (rest : List EvidenceConfig) :
    validateFamilies seen (family :: rest) = .ok () ↔
      family.family ∉ seen ∧ HasEvidence family ∧
        validateFamilies (family.family :: seen) rest = .ok () := by
  rw [validateFamilies]
  by_cases hseen : family.family ∈ seen
  · simp [hseen]
  by_cases hdocuments : family.documents = []
  · simp [hseen, hdocuments, HasEvidence]
  cases hfind : family.documents.find? (·.snippets.isEmpty) with
  | some document =>
    have hempty : document.snippets = [] := by
      simpa using List.find?_some hfind
    have hmember : document ∈ family.documents := List.mem_of_find?_eq_some hfind
    have hlacks : ¬HasEvidence family := fun h => h.2 document hmember hempty
    simp [hseen, hdocuments, hlacks]
  | none =>
    have hsnippets : ∀ document ∈ family.documents, document.snippets ≠ [] := by
      simpa using hfind
    have hevidence : HasEvidence family := ⟨hdocuments, hsnippets⟩
    simp [hseen, hdocuments, hevidence]

/-- The walk accepts the families that are still to come exactly if none of
their names has been seen, no two of them have one name, and all of them have
evidence. -/
theorem validateFamilies_ok_iff (seen : List String)
    (families : List EvidenceConfig) :
    validateFamilies seen families = .ok () ↔
      (∀ family ∈ families, family.family ∉ seen) ∧
        (families.map EvidenceConfig.family).Nodup ∧
          ∀ family ∈ families, HasEvidence family := by
  induction families generalizing seen with
  | nil => simp [validateFamilies]
  | cons family rest ih =>
    rw [validateFamilies_cons_ok_iff, ih]
    simp only [List.mem_cons, List.map_cons, List.nodup_cons, List.mem_map,
      forall_eq_or_imp, not_or]
    constructor
    · rintro ⟨hseen, hevidence, hrest, hnodup, hothers⟩
      refine ⟨⟨hseen, fun other hm => (hrest other hm).2⟩, ⟨?_, hnodup⟩, hevidence,
        hothers⟩
      rintro ⟨other, hm, hname⟩
      exact (hrest other hm).1 hname
    · rintro ⟨⟨hseen, hrest⟩, ⟨hname, hnodup⟩, hevidence, hothers⟩
      refine ⟨hseen, hevidence, fun other hm => ⟨?_, hrest other hm⟩, hnodup,
        hothers⟩
      intro hsame
      exact hname ⟨other, hm, hsame⟩

/-- Validation gets as far as the families and accepts them. -/
theorem validateFamilies_of_validate {config : Config}
    (h : config.validate = .ok ()) :
    validateFamilies [] config.evidence = .ok () := by
  unfold validate at h
  split at h
  · cases h
  split at h
  · cases h
  split at h
  · cases h
  split at h
  · cases h
  split at h
  · cases h
  exact h

theorem families_nodup {config : Config} (h : config.validate = .ok ()) :
    (config.evidence.map EvidenceConfig.family).Nodup :=
  ((validateFamilies_ok_iff _ _).mp (validateFamilies_of_validate h)).2.1

/-- The first entry under the name of an entry is that entry, as long as no name
occurs twice. -/
theorem find?_family_of_mem {families : List EvidenceConfig}
    {entry : EvidenceConfig}
    (hnodup : (families.map EvidenceConfig.family).Nodup)
    (hmember : entry ∈ families) :
    families.find? (·.family == entry.family) = some entry := by
  induction families with
  | nil => cases hmember
  | cons head rest ih =>
    obtain ⟨hhead, hrest⟩ := List.nodup_cons.mp hnodup
    rcases List.mem_cons.mp hmember with rfl | hm
    · simp
    · have hne : head.family ≠ entry.family := by
        intro hsame
        exact hhead (hsame ▸ List.mem_map_of_mem hm)
      rw [List.find?_cons_of_neg (by simpa using hne)]
      exact ih hrest hm

/-- Looking an entry of an accepted configuration up by its name gives the entry
back. -/
theorem family_of_mem {config : Config} {entry : EvidenceConfig}
    (h : config.validate = .ok ()) (hmember : entry ∈ config.evidence) :
    config.family entry.family = .ok entry := by
  have hfound : config.family? entry.family = some entry :=
    find?_family_of_mem (families_nodup h) hmember
  simp [family, hfound]

/-- Whatever is found under a name is an entry of that name. -/
theorem of_family_eq_ok {config : Config} {name : String} {entry : EvidenceConfig}
    (h : config.family name = .ok entry) :
    entry ∈ config.evidence ∧ entry.family = name := by
  unfold family at h
  split at h
  · next found hfound =>
    cases h
    exact ⟨List.mem_of_find?_eq_some hfound, by simpa using List.find?_some hfound⟩
  · cases h

/-- The gate of a family is there when the family is. -/
theorem evidence_mem_gates_iff {config : Config} {name : String} :
    Gate.evidence name ∈ config.gates ↔ ∃ entry, config.family name = .ok entry := by
  have hmem : Gate.evidence name ∈ config.gates ↔
      (config.evidence.find? fun entry => entry.family == name).isSome := by
    simp [gates, List.find?_isSome]
  rw [hmem, family, family?]
  cases config.evidence.find? fun entry => entry.family == name <;> simp

end Compliance.Config
