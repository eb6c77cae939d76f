import Compliance.Proofs.MemoryContents
import Compliance.Proofs.SourceAgreement
import Compliance.Proofs.StoredDocuments

/-!
A corpus in memory stands in for a directory on a disk that holds the same
documents. Directories in memory are prefixes of paths, on the disk they are nodes
of a tree: for normal paths both say the same.
-/

namespace Compliance

/-- A relative path of plain names that a file system takes below a root. -/
structure IsNormal (root path : String) : Prop where
  plain : ∀ name ∈ Place.components path.toList, Place.IsPlain name
  noNul : '\x00' ∉ path.toList
  fits : (Workspace.join root path).utf8ByteSize ≤ Place.maxPath

theorem isNormal_iff {root path : String} :
    IsNormal root path ↔
      (∀ name ∈ Place.components path.toList, Place.IsPlain name) ∧
        '\x00' ∉ path.toList ∧
        (Workspace.join root path).utf8ByteSize ≤ Place.maxPath :=
  ⟨fun h => ⟨h.plain, h.noNul, h.fits⟩, fun h => ⟨h.1, h.2.1, h.2.2⟩⟩

instance (root path : String) : Decidable (IsNormal root path) :=
  decidable_of_iff _ isNormal_iff.symm

namespace IsNormal

variable {root path : String}

theorem relative (h : IsNormal root path) : FileTree.isAbsolute path = false := by
  unfold FileTree.isAbsolute
  cases hpath : path.toList with
  | nil => rfl
  | cons c rest =>
    have hslash : c ≠ '/' := by
      rintro rfl
      have hblank := h.plain "" (by
        rw [hpath]
        exact (Place.components_append [] rest) ▸ List.mem_cons_self)
      exact hblank.1 rfl
    simpa using hslash

theorem nonempty (h : IsNormal root path) : path ≠ "" := by
  rintro rfl
  exact (h.plain "" List.mem_cons_self).1 rfl

theorem directoryPrefix_eq (h : IsNormal root path) :
    MemorySource.directoryPrefix path.toList = path.toList ++ ['/'] := by
  have hlast : path.toList.reverse.dropWhile (· = '/') = path.toList.reverse := by
    cases hreverse : path.toList.reverse with
    | nil => rfl
    | cons c rest =>
      have hpath : path.toList = rest.reverse ++ [c] := by
        simpa using congrArg List.reverse hreverse
      have hslash : c ≠ '/' := by
        rintro rfl
        have hblank := h.plain "" (by
          rw [hpath, Place.components_append]
          exact List.mem_append_right _ List.mem_cons_self)
        exact hblank.1 rfl
      simp [hslash]
  rw [MemorySource.directoryPrefix, hlast, List.reverse_reverse]

end IsNormal

namespace MemorySource

variable {memory : MemorySource} {path : String}

/-- In memory a path is there when a document is stored at it or below it. -/
theorem has_iff {root : String} (h : IsNormal root path) :
    memory.has path = true ↔
      ∃ document ∈ memory.entries, document.1 = path ∨ Below path document.1 := by
  simp only [has_iff_content?, h.directoryPrefix_eq, content?_eq_some_iff, Prod.exists]
  rfl

end MemorySource

namespace Node.Holds

variable {node : Node} {memory : MemorySource} {path : String}

theorem file_at?_iff (h : node.Holds memory.entries) {bytes : ByteArray} :
    node.at? (Place.components path.toList) = some (.file bytes) ↔
      ∃ text, memory.content? path = some text ∧ bytes = text.toUTF8 := by
  rw [h.file_iff]
  constructor
  · rintro ⟨⟨stored, text⟩, hdocument, hnames, hbytes⟩
    obtain rfl := Place.components_inj hnames
    exact ⟨text, MemorySource.content?_eq_some_iff.mpr hdocument, hbytes⟩
  · rintro ⟨text, hcontent, hbytes⟩
    exact ⟨(path, text), MemorySource.content?_eq_some_iff.mp hcontent, rfl, hbytes⟩

/-- Below every directory that a path leads to some document is stored. -/
theorem below_of_directory (h : node.Holds memory.entries)
    {entries : List (String × Node)}
    (hnode : node.at? (Place.components path.toList) = some (.directory entries)) :
    ∃ document ∈ memory.entries, Below path document.1 := by
  obtain ⟨more, bytes, hmore⟩ :=
    h.leads _ entries (Place.components_ne_nil _) hnode
  obtain ⟨document, hdocument, hnames, _⟩ := (h.file_iff _ _).mp hmore
  refine ⟨document, hdocument, Place.below_iff.mpr ⟨more, ?_, hnames.symm⟩⟩
  rintro rfl
  rw [List.append_nil, hnode] at hmore
  cases hmore

/-- A node is there exactly where memory says so. -/
theorem isSome_at?_iff (h : node.Holds memory.entries) {root : String}
    (hpath : IsNormal root path) :
    (node.at? (Place.components path.toList)).isSome = true ↔
      memory.has path = true := by
  rw [MemorySource.has_iff hpath]
  constructor
  · intro hthere
    obtain ⟨found, hfound⟩ := Option.isSome_iff_exists.mp hthere
    cases found with
    | file bytes =>
      obtain ⟨text, hcontent, _⟩ := h.file_at?_iff.mp hfound
      exact ⟨(path, text), MemorySource.content?_eq_some_iff.mp hcontent, .inl rfl⟩
    | directory entries =>
      obtain ⟨document, hdocument, hbelow⟩ := h.below_of_directory hfound
      exact ⟨document, hdocument, .inr hbelow⟩
  · rintro ⟨document, hdocument, hstored⟩
    have hfile : node.at? (Place.components document.1.toList) =
        some (.file document.2.toUTF8) :=
      (h.file_iff _ _).mpr ⟨document, hdocument, rfl, rfl⟩
    rcases hstored with rfl | hbelow
    · rw [hfile]
      rfl
    · obtain ⟨more, _, hnames⟩ := Place.below_iff.mp hbelow
      rw [hnames, Node.at?_append] at hfile
      obtain ⟨found, hfound, _⟩ := Option.bind_eq_some_iff.mp hfile
      rw [hfound]
      rfl

end Node.Holds

namespace Workspace

variable {files : FileTree} {root path : String} {place : Place}

theorem locate_resolve (hroot : files.rootPlace root = .ok place)
    (h : IsNormal root path) :
    files.locate (join root path) = place.walk (Place.components path.toList) :=
  locate_join hroot h.relative (join_ne_empty h.nonempty root) h.noNul h.fits

theorem has_eq (hroot : files.rootPlace root = .ok place) (h : IsNormal root path) :
    (Workspace.mk root files.access).source.has path =
      (place.node.at? (Place.components path.toList)).isSome := by
  change files.has (join root path) = _
  rw [FileTree.has, locate_resolve hroot h]
  cases hfound : place.node.at? (Place.components path.toList) with
  | some node =>
    obtain ⟨above, hwalk⟩ := Place.walk_of_at?_eq_some h.plain hfound
    rw [hwalk]
    rfl
  | none =>
    rcases Place.walk_of_at?_eq_none h.plain hfound with hwalk | ⟨hwalk, _⟩ <;>
      rw [hwalk] <;> rfl

theorem has_eq_memory {memory : MemorySource}
    (hroot : files.rootPlace root = .ok place)
    (hholds : place.node.Holds memory.entries) (h : IsNormal root path) :
    (Workspace.mk root files.access).source.has path = memory.source.has path := by
  rw [has_eq hroot h, Bool.eq_iff_iff, hholds.isSome_at?_iff h]
  rfl

/-- Where nothing is stored above or below a path, reading it gives the same in
memory and on the disk. -/
theorem read_eq_memory {memory : MemorySource}
    (hroot : files.rootPlace root = .ok place)
    (hholds : place.node.Holds memory.entries) (h : IsNormal root path)
    (hapart : ∀ document ∈ memory.entries,
      ¬Below path document.1 ∧ ¬Below document.1 path) :
    (Workspace.mk root files.access).source.read path = memory.source.read path := by
  have hfiles : files.read (join root path) =
      (memory.content? path).elim (.error .notFound) .ok := by
    rw [FileTree.read, locate_resolve hroot h]
    cases hfound : place.node.at? (Place.components path.toList) with
    | some node =>
      obtain ⟨above, hwalk⟩ := Place.walk_of_at?_eq_some h.plain hfound
      rw [hwalk]
      cases node with
      | file bytes =>
        obtain ⟨text, hcontent, rfl⟩ := hholds.file_at?_iff.mp hfound
        rw [hcontent]
        simp only [Except.bind, fromUTF8?_toUTF8]
        rfl
      | directory entries =>
        obtain ⟨document, hdocument, hbelow⟩ := hholds.below_of_directory hfound
        exact absurd hbelow (hapart document hdocument).1
    | none =>
      have habsent : memory.content? path = none := by
        by_contra hstored
        obtain ⟨text, hcontent⟩ := Option.ne_none_iff_exists'.mp hstored
        have hfile := hholds.file_at?_iff.mpr ⟨text, hcontent, rfl⟩
        rw [hfound] at hfile
        cases hfile
      rcases Place.walk_of_at?_eq_none h.plain hfound with
        hwalk | ⟨_, front, more, bytes, hmore, hnames, hfront⟩
      · rw [hwalk, habsent]
        rfl
      · obtain ⟨document, hdocument, hstored, _⟩ := (hholds.file_iff _ _).mp hfront
        have hbelow : Below document.1 path :=
          Place.below_iff.mpr ⟨more, hmore, by rw [hnames, hstored]⟩
        exact absurd hbelow (hapart document hdocument).2
  simp only [source, read, resolve, FileTree.access, hfiles, MemorySource.source]
  cases memory.content? path <;> rfl

end Workspace

/-- Documents that do not run through one another make a directory, and on every
disk where the root is a directory that holds them and nothing else, all gates come
to the same outcomes as in memory. -/
theorem disk_agrees_with_memory {memory : MemorySource} {config : Config} {root : String}
    (hcorpus : ∀ document ∈ memory.entries, IsNormal root document.1)
    (hapart : ∀ first ∈ memory.entries, ∀ second ∈ memory.entries,
      ¬Below first.1 second.1)
    (hconfig : ∀ path ∈ config.freeze.requiredPaths ++ config.contentPaths,
      IsNormal root path)
    (hcontents : ∀ path ∈ config.contentPaths, ∀ document ∈ memory.entries,
      ¬Below path document.1 ∧ ¬Below document.1 path) :
    (Node.ofDocuments memory.entries).Holds memory.entries ∧
      ∀ (files : FileTree) (place : Place),
        files.rootPlace root = .ok place → place.node.Holds memory.entries →
          let disk := (Workspace.mk root files.access).source
          (∀ document ∈ memory.entries, disk.read document.1 = .ok (some document.2)) ∧
            (∀ gate : Gate, gate.run disk config = gate.run memory.source config) ∧
            Pipeline.run disk config = Pipeline.run memory.source config := by
  refine ⟨Node.holds_ofDocuments memory.distinct hapart, ?_⟩
  intro files place hroot hholds disk
  have halike : config.Alike disk memory.source := by
    constructor
    · intro path hpath
      exact Workspace.has_eq_memory hroot hholds
        (hconfig path (List.mem_append_left _ hpath))
    · intro path hpath
      exact Workspace.read_eq_memory hroot hholds
        (hconfig path (List.mem_append_right _ hpath)) (hcontents path hpath)
  refine ⟨?_, Gate.run_congr halike, Pipeline.run_congr halike⟩
  intro document hdocument
  rw [Workspace.read_eq_memory hroot hholds (hcorpus document hdocument)
    fun other hother => ⟨hapart _ hdocument _ hother, hapart _ hother _ hdocument⟩]
  exact congrArg Except.ok (MemorySource.content?_eq_some_iff.mpr hdocument)

/-- Two documents in two directories, whose names begin alike. -/
def releaseCorpus : MemorySource :=
  .ofList [("controls/access.md", "reviewed"), ("control/ledger.json", "{}")]

/-- One directory is asked for by its name, and the schema is not there. -/
def releaseConfig : Config where
  freeze := { requiredPaths := ["controls", "control/ledger.json"] }
  approvals := { ledger := "control/ledger.json" }
  schema :=
    { path := "schema.json", requiredFields := .ofList ["id"],
      eventTypes := .ofList ["paid"] }
  evidence :=
    [{ family := "access", documents := [⟨"controls/access.md", ["reviewed"]⟩] }]

/-- A disk with the release in a directory of its own. -/
def releaseDisk : FileTree where
  tree := .directory [("release", .ofDocuments releaseCorpus.entries)]
  directory := []

theorem releaseDisk_agrees_with_memory :
    let disk := (Workspace.mk "release/" releaseDisk.access).source
    (∀ document ∈ releaseCorpus.entries, IsNormal "release/" document.1) ∧
      (∀ first ∈ releaseCorpus.entries, ∀ second ∈ releaseCorpus.entries,
        ¬Below first.1 second.1) ∧
      (∀ path ∈ releaseConfig.freeze.requiredPaths ++ releaseConfig.contentPaths,
        IsNormal "release/" path) ∧
      (∀ path ∈ releaseConfig.contentPaths, ∀ document ∈ releaseCorpus.entries,
        ¬Below path document.1 ∧ ¬Below document.1 path) ∧
      Pipeline.run disk releaseConfig =
        Pipeline.run releaseCorpus.source releaseConfig ∧
      (Pipeline.run disk releaseConfig).map (fun ran => ran.2.passed) =
        [true, true, false, true] := by
  intro disk
  have hcorpus : ∀ document ∈ releaseCorpus.entries, IsNormal "release/" document.1 := by
    decide +kernel
  have hapart : ∀ first ∈ releaseCorpus.entries, ∀ second ∈ releaseCorpus.entries,
      ¬Below first.1 second.1 := by
    decide +kernel
  have hconfig : ∀ path ∈ releaseConfig.freeze.requiredPaths ++
      releaseConfig.contentPaths, IsNormal "release/" path := by
    decide +kernel
  have hcontents : ∀ path ∈ releaseConfig.contentPaths,
      ∀ document ∈ releaseCorpus.entries,
        ¬Below path document.1 ∧ ¬Below document.1 path := by
    decide +kernel
  have hroot : releaseDisk.rootPlace "release/" =
      .ok ⟨.ofDocuments releaseCorpus.entries, [releaseDisk.tree]⟩ := by
    rfl
  obtain ⟨hholds, hdisk⟩ :=
    disk_agrees_with_memory hcorpus hapart hconfig hcontents
  obtain ⟨_, _, hrun⟩ := hdisk releaseDisk _ hroot hholds
  refine ⟨hcorpus, hapart, hconfig, hcontents, hrun, ?_⟩
  rw [hrun]
  decide +kernel

end Compliance
