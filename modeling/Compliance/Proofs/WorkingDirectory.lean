import Compliance.Proofs.AbsentDocuments

/-!
The working directory by two names. A relative path is found from the directory
itself, which a point stands for, and from the top of the tree behind the absolute
path of the directory. Both ways end alike as long as neither path is too long.
-/

namespace Compliance

namespace Place

/-- Names behind slashes are components of their own. -/
theorem components_append_names (front : List Char) {names : List String}
    (h : ∀ name ∈ names, '/' ∉ name.toList) :
    components (front ++ names.flatMap fun name => '/' :: name.toList) =
      components front ++ names := by
  induction names generalizing front with
  | nil => simp
  | cons name rest ih =>
    obtain ⟨hname, hrest⟩ := List.forall_mem_cons.mp h
    rw [List.flatMap_cons, List.cons_append, components_append, ih _ hrest,
      components_of_slashless hname, String.ofList_toList]
    rfl

/-- An empty component stays where it is. -/
theorem walk_blank {place : Place} {entries : List (String × Node)}
    (h : place.node = .directory entries) (names : List String) :
    place.walk ("" :: names) = place.walk names := by
  have hstep : place.step "" = .ok place := by simp [step, h]
  rw [walk, hstep]
  rfl

theorem walk_of_blank {place next : Place} {names : List String}
    (h : place.walk ("" :: names) = .ok next) : place.walk names = .ok next := by
  cases hnode : place.node with
  | file bytes =>
    rw [walk, step_file hnode] at h
    cases h
  | directory entries => rwa [walk_blank hnode] at h

/-- A walk to a directory begins at one. -/
theorem isDirectory_of_walk {place : Place} {names : List String}
    {entries : List (String × Node)} {above : List Node}
    (h : place.walk names = .ok ⟨.directory entries, above⟩) :
    ∃ others, place.node = .directory others := by
  cases hnode : place.node with
  | directory others => exact ⟨others, rfl⟩
  | file bytes =>
    cases names with
    | nil =>
      cases h
      cases hnode
    | cons name rest =>
      rw [walk, step_file hnode] at h
      cases h

end Place

namespace FileTree

theorem toList_directoryPath (files : FileTree) :
    files.directoryPath.toList =
      if files.directory.isEmpty then ['/']
      else files.directory.flatMap fun name => '/' :: name.toList := by
  unfold directoryPath
  split
  · rfl
  · simp [String.toList_join, List.flatMap_map]

theorem isAbsolute_directoryPath (files : FileTree) :
    isAbsolute files.directoryPath = true := by
  rw [isAbsolute, toList_directoryPath]
  cases files.directory <;> simp

theorem walk_directoryPath {files : FileTree}
    (h : ∀ name ∈ files.directory, '/' ∉ name.toList) :
    files.top.walk (Place.components files.directoryPath.toList) =
      files.top.walk ("" :: files.directory) := by
  rw [toList_directoryPath]
  split
  · next hnone =>
    -- Beside the slash that is the top there are two blanks instead of one.
    rw [List.isEmpty_iff.mp hnone]
    cases hnode : files.top.node with
    | file bytes =>
      change files.top.walk ["", ""] = _
      rw [Place.walk, Place.walk, Place.step_file hnode]
      rfl
    | directory entries => exact Place.walk_blank hnode [""]
  · have hnames := Place.components_append_names [] h
    rw [List.nil_append] at hnames
    rw [hnames]
    rfl

/-- The absolute path of the working directory leads to it. The names on the way are
those of entries, which hold no slash. -/
structure Resolvable (files : FileTree) : Prop where
  slashless : ∀ name ∈ files.directory, '/' ∉ name.toList
  leads : ∃ entries above,
    files.locate files.directoryPath = .ok ⟨.directory entries, above⟩

/-- The absolute path and the names on it lead to the same directory. -/
theorem Resolvable.walk_directory {files : FileTree} (h : files.Resolvable) :
    ∃ entries above,
      files.locate files.directoryPath = .ok ⟨.directory entries, above⟩ ∧
      files.top.walk files.directory = .ok ⟨.directory entries, above⟩ := by
  obtain ⟨entries, above, hlocated⟩ := h.leads
  refine ⟨entries, above, hlocated, ?_⟩
  obtain ⟨hnul, hempty, hfits⟩ := of_locate_eq_ok hlocated
  rw [locate_eq hnul hempty hfits, start,
    if_pos files.isAbsolute_directoryPath] at hlocated
  exact Place.walk_of_blank ((walk_directoryPath h.slashless).symm.trans hlocated)

/-- A working directory that is there can be resolved when its path is short enough
and no NUL stands in it. -/
theorem resolvable_of_walk {files : FileTree} {entries : List (String × Node)}
    {above : List Node} (hslash : ∀ name ∈ files.directory, '/' ∉ name.toList)
    (hnul : ∀ name ∈ files.directory, '\x00' ∉ name.toList)
    (hfits : files.directoryPath.utf8ByteSize ≤ Place.maxPath)
    (hwalk : files.top.walk files.directory = .ok ⟨.directory entries, above⟩) :
    files.Resolvable := by
  refine ⟨hslash, entries, above, ?_⟩
  have hpathNul : '\x00' ∉ files.directoryPath.toList := by
    rw [toList_directoryPath]
    split
    · decide
    · simpa using hnul
  have hempty : files.directoryPath ≠ "" := by
    intro hempty
    have habsolute := files.isAbsolute_directoryPath
    rw [hempty] at habsolute
    cases habsolute
  obtain ⟨others, htop⟩ := Place.isDirectory_of_walk hwalk
  rw [locate_eq hpathNul hempty hfits, start, if_pos files.isAbsolute_directoryPath]
  exact ((walk_directoryPath hslash).trans (Place.walk_blank htop _)).trans hwalk

/-- A point stands for the working directory. -/
theorem rootPlace_point {files : FileTree} {entries : List (String × Node)}
    {above : List Node}
    (hwalk : files.top.walk files.directory = .ok ⟨.directory entries, above⟩) :
    files.rootPlace "." = .ok ⟨.directory entries, above⟩ := by
  have hpoint : files.locate "." =
      (files.top.walk files.directory).bind fun place => place.walk ["."] := rfl
  rw [rootPlace, if_neg (by decide), hpoint, hwalk]
  rfl

/-- The point and the absolute path are two roots at the same place. -/
theorem Resolvable.rootPlace_eq {files : FileTree} (h : files.Resolvable) :
    ∃ place, files.rootPlace "." = .ok place ∧
      files.rootPlace files.directoryPath = .ok place := by
  obtain ⟨entries, above, hlocated, hwalk⟩ := h.walk_directory
  obtain ⟨_, hempty, _⟩ := of_locate_eq_ok hlocated
  refine ⟨_, rootPlace_point hwalk, ?_⟩
  rw [rootPlace, if_neg hempty]
  exact hlocated

variable {files : FileTree} {path other : String}

theorem has_of_locate_eq (h : files.locate path = files.locate other) :
    files.has path = files.has other := by
  rw [has, has, h]

theorem read_of_locate_eq (h : files.locate path = files.locate other) :
    files.read path = files.read other := by
  rw [read, read, h]

end FileTree

namespace Workspace

/-- A relative path that is short enough leads to the same behind a point and behind
the absolute path of the working directory. -/
theorem locate_join_point {files : FileTree} {path : String} (h : files.Resolvable)
    (hrelative : FileTree.isAbsolute path = false) (hempty : path ≠ "")
    (hnul : '\x00' ∉ path.toList)
    (hpoint : (join "." path).utf8ByteSize ≤ Place.maxPath)
    (hfits : (join files.directoryPath path).utf8ByteSize ≤ Place.maxPath) :
    files.locate (join "." path) = files.locate (join files.directoryPath path) := by
  obtain ⟨place, hhere, habsolute⟩ := h.rootPlace_eq
  rw [locate_join hhere hrelative (join_ne_empty hempty _) hnul hpoint,
    locate_join habsolute hrelative (join_ne_empty hempty _) hnul hfits]

/-- Where the absolute path leaves no room for a relative one, what lies behind it is
not followed. -/
theorem obstructed_by_length {files : FileTree} {path : String} (h : files.Resolvable)
    (hrelative : FileTree.isAbsolute path = false) (hnul : '\x00' ∉ path.toList)
    (hlong : Place.maxPath < files.directoryPath.utf8ByteSize + path.utf8ByteSize) :
    files.Obstructed (join files.directoryPath path) .nameTooLong := by
  obtain ⟨entries, above, hlocated⟩ := h.leads
  obtain ⟨hrootNul, hempty, _⟩ := FileTree.of_locate_eq_ok hlocated
  obtain ⟨rest, hjoin, hrest⟩ := join_eq_append hempty hrelative
  have hrestNul : '\x00' ∉ rest.toList := by
    rcases hrest with ⟨rfl, _⟩ | rfl
    · exact hnul
    · simp [hnul]
  have hrestSize : path.utf8ByteSize ≤ rest.utf8ByteSize := by
    rcases hrest with ⟨rfl, _⟩ | rfl
    · exact Nat.le_refl _
    · rw [String.utf8ByteSize_append]
      omega
  rw [hjoin]
  apply FileTree.Obstructed.long
  · simp [hrootNul, hrestNul]
  · rw [String.utf8ByteSize_append]
    omega

end Workspace

end Compliance
