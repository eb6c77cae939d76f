import Compliance.Proofs.NamedValues
import Compliance.Proofs.PathWalks

/-!
Directories that hold given documents and nothing else. Documents whose paths do
not run through one another make such a directory when they are put in one after
the other.
-/

namespace Compliance

namespace Node

variable (node child : Node)

theorem entry?_setEntry (name other : String) :
    entry? other (node.setEntry name child) =
      if other = name then some child else node.entry? other := by
  cases node with
  | file bytes => exact lookup_cons_eq name other child []
  | directory entries =>
    simp only [setEntry, entry?, lookup_cons_eq]
    split
    · rfl
    · next h => exact lookup_filter_ne h entries

theorem setEntry_eq_directory (name : String) :
    ∃ entries, node.setEntry name child = .directory entries := by
  cases node <;> exact ⟨_, rfl⟩

/-- What is put at a place is found there. -/
theorem at?_put_append (names rest : List String) :
    (node.put names child).at? (names ++ rest) = child.at? rest := by
  induction names generalizing node with
  | nil => rfl
  | cons name names ih =>
    rw [List.cons_append, put, at?_cons, entry?_setEntry, if_pos rfl]
    exact ih _

/-- The way to a place consists of directories. -/
theorem at?_put_above {names other more : List String} (hmore : more ≠ [])
    (h : names = other ++ more) :
    ∃ entries, (node.put names child).at? other = some (.directory entries) := by
  subst h
  induction other generalizing node with
  | nil =>
    obtain ⟨name, rest, rfl⟩ := List.exists_cons_of_ne_nil hmore
    obtain ⟨entries, hentries⟩ := node.setEntry_eq_directory
      (put ((node.entry? name).getD emptyDirectory) rest child) name
    exact ⟨entries, congrArg some hentries⟩
  | cons name other ih =>
    rw [List.cons_append, put, at?_cons, entry?_setEntry, if_pos rfl]
    exact ih _

/-- Places that are not on one line with the new one stay as they are. -/
theorem at?_put_apart {names other : List String} (hbelow : ¬names <+: other)
    (habove : ¬other <+: names) : (node.put names child).at? other = node.at? other := by
  induction names generalizing node other with
  | nil => exact absurd List.nil_prefix hbelow
  | cons name names ih =>
    cases other with
    | nil => exact absurd List.nil_prefix habove
    | cons first other =>
      rw [put, at?_cons, at?_cons, entry?_setEntry]
      by_cases hfirst : first = name
      · subst hfirst
        rw [if_pos rfl]
        simp only [List.prefix_cons_inj] at hbelow habove
        rw [Option.bind_some, ih _ hbelow habove]
        cases node.entry? first with
        | some inner => rfl
        | none =>
          cases other with
          | nil => exact absurd List.nil_prefix habove
          | cons second other => rfl
      · rw [if_neg hfirst]

end Node

/-- A directory holds exactly these documents: they are all of its files, and every
directory in it leads to one of them. -/
structure Node.Holds (node : Node) (documents : List (String × String)) : Prop where
  isDirectory : node.isDirectory = true
  file_iff : ∀ names bytes, node.at? names = some (.file bytes) ↔
    ∃ document ∈ documents, names = Place.components document.1.toList ∧
      bytes = document.2.toUTF8
  leads : ∀ names entries, names ≠ [] → node.at? names = some (.directory entries) →
    ∃ more bytes, node.at? (names ++ more) = some (.file bytes)

/-- The files of a directory after one has been put in. -/
theorem Node.at?_put_file_iff (node : Node) {names other : List String}
    {text bytes : ByteArray} :
    (node.put names (.file text)).at? other = some (.file bytes) ↔
      other = names ∧ bytes = text ∨
        ¬names <+: other ∧ ¬other <+: names ∧ node.at? other = some (.file bytes) := by
  by_cases hbelow : names <+: other
  · simp only [hbelow, not_true, false_and, or_false]
    obtain ⟨more, rfl⟩ := hbelow
    rw [at?_put_append]
    cases more with
    | nil => simp [eq_comm]
    | cons name more => simp [at?_file]
  · have hother : other ≠ names := by
      rintro rfl
      exact hbelow List.prefix_rfl
    by_cases habove : other <+: names
    · have ⟨more, hmore⟩ := habove
      have hne : more ≠ [] := by
        rintro rfl
        exact hother (by simpa using hmore)
      obtain ⟨entries, hentries⟩ := node.at?_put_above (.file text) hne hmore.symm
      simp [hentries, hother, habove]
    · simp [at?_put_apart _ _ hbelow habove, hother, hbelow, habove]

theorem Place.not_prefix_of_apart {first second : String} (hne : first ≠ second)
    (h : ¬Below first second) :
    ¬components first.toList <+: components second.toList := by
  rw [prefix_components_iff, not_or]
  exact ⟨hne.symm, h⟩

/-- The directory that documents make when they are put in one after the other. -/
def Node.ofDocuments : List (String × String) → Node
  | [] => emptyDirectory
  | (path, text) :: rest =>
    (ofDocuments rest).put (Place.components path.toList) (.file text.toUTF8)

theorem Node.holds_nil : emptyDirectory.Holds [] := by
  refine ⟨rfl, ?_, ?_⟩
  · intro names bytes
    cases names <;> simp [at?, emptyDirectory, entry?]
  · intro names entries hnames
    cases names with
    | nil => exact absurd rfl hnames
    | cons name rest => simp [at?, emptyDirectory, entry?]

/-- Putting a document in where nothing stands in its way. -/
theorem Node.Holds.put {node : Node} {documents : List (String × String)}
    {path text : String} (h : node.Holds documents)
    (hapart : ∀ document ∈ documents,
      ¬Place.components path.toList <+: Place.components document.1.toList ∧
        ¬Place.components document.1.toList <+: Place.components path.toList) :
    (node.put (Place.components path.toList) (.file text.toUTF8)).Holds
      ((path, text) :: documents) := by
  have hfiles (other : List String) (bytes : ByteArray) :
      (node.put (Place.components path.toList) (.file text.toUTF8)).at? other =
          some (.file bytes) ↔
        ∃ document ∈ (path, text) :: documents,
          other = Place.components document.1.toList ∧ bytes = document.2.toUTF8 := by
    rw [at?_put_file_iff, h.file_iff]
    simp only [List.mem_cons, exists_eq_or_imp]
    apply or_congr_right
    constructor
    · exact fun hkept => hkept.2.2
    · rintro ⟨document, hdocument, rfl, hbytes⟩
      obtain ⟨hbelow, habove⟩ := hapart document hdocument
      exact ⟨hbelow, habove, document, hdocument, rfl, hbytes⟩
  refine ⟨?_, hfiles, ?_⟩
  · obtain ⟨entries, hentries⟩ := node.at?_put_above (.file text.toUTF8)
      (Place.components_ne_nil path.toList) (List.nil_append _).symm
    rw [Option.some.inj hentries]
    rfl
  · intro other entries hother hnode
    by_cases habove : other <+: Place.components path.toList
    · obtain ⟨more, hmore⟩ := habove
      exact ⟨more, text.toUTF8, (hfiles _ _).mpr ⟨_, List.mem_cons_self, hmore, rfl⟩⟩
    · have hbelow : ¬Place.components path.toList <+: other := by
        rintro ⟨more, rfl⟩
        rw [at?_put_append] at hnode
        cases more <;> cases hnode
      rw [at?_put_apart _ _ hbelow habove] at hnode
      obtain ⟨more, bytes, hmore⟩ := h.leads other entries hother hnode
      obtain ⟨document, hdocument, hnames⟩ := (h.file_iff _ _).mp hmore
      exact ⟨more, bytes, (hfiles _ _).mpr
        ⟨document, List.mem_cons_of_mem _ hdocument, hnames⟩⟩

theorem Node.holds_ofDocuments {documents : List (String × String)}
    (hdistinct : (documents.map Prod.fst).Nodup)
    (hapart : ∀ first ∈ documents, ∀ second ∈ documents, ¬Below first.1 second.1) :
    (ofDocuments documents).Holds documents := by
  induction documents with
  | nil => exact holds_nil
  | cons document rest ih =>
    obtain ⟨hnew, hrest⟩ := List.nodup_cons.mp hdistinct
    have hholds := ih hrest fun first hfirst second hsecond =>
      hapart first (List.mem_cons_of_mem _ hfirst) second (List.mem_cons_of_mem _ hsecond)
    apply hholds.put
    intro other hother
    have hne : document.1 ≠ other.1 := by
      intro hsame
      exact hnew (hsame ▸ List.mem_map_of_mem hother)
    have hmem := List.mem_cons_of_mem document hother
    exact ⟨Place.not_prefix_of_apart hne (hapart _ List.mem_cons_self _ hmem),
      Place.not_prefix_of_apart hne.symm (hapart _ hmem _ List.mem_cons_self)⟩

end Compliance
