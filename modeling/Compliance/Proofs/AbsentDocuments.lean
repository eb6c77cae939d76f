import Compliance.Proofs.ExitStatus
import Compliance.Proofs.PathWalks
import Compliance.Proofs.RequirementVerdicts
import Compliance.Source.Memory

/-!
What it takes for a document to be absent. In memory a path that is not there has
no document. On a disk the first obstacle on the way decides: where a directory
lacks a name the document is absent, but a file in the way, a name or path that is
too long and a NUL are errors of reading, although nothing is there either.
-/

namespace Compliance

namespace Place

/-- Why a name does not lead on from a place. -/
inductive Blocks (place : Place) (name : String) : IoCause → Prop
  | file {bytes : ByteArray} (hnode : place.node = .file bytes) :
    place.Blocks name .notDirectory
  | longName {entries : List (String × Node)} (hnode : place.node = .directory entries)
    (hlong : maxName < name.utf8ByteSize) : place.Blocks name .nameTooLong
  | missing {entries : List (String × Node)} (hnode : place.node = .directory entries)
    (hname : IsPlain name) (hnone : entries.lookup name = none) :
    place.Blocks name .notFound

theorem step_eq_error_iff {place : Place} {name : String} {cause : IoCause} :
    place.step name = .error cause ↔ place.Blocks name cause := by
  constructor
  · intro h
    unfold step at h
    split at h
    · next hnode =>
      cases h
      exact .file hnode
    · next entries hnode =>
      split at h
      · cases h
      next hself =>
        split at h
        · split at h <;> cases h
        next hparent =>
          split at h
          · next hlong =>
            cases h
            exact .longName hnode hlong
          · next hshort =>
            split at h
            · cases h
            · next hnone =>
              cases h
              simp only [not_or] at hself
              exact .missing hnode
                ⟨hself.1, hself.2, hparent, Nat.not_lt.mp hshort⟩ hnone
  · intro h
    cases h with
    | file hnode => exact step_file hnode name
    | @longName entries hnode hlong =>
      have hname (other : String) (hother : other.utf8ByteSize ≤ maxName) :
          name ≠ other := by
        rintro rfl
        omega
      simp [step, hnode, hlong, hname "" (by decide), hname "." (by decide),
        hname ".." (by decide)]
    | missing hnode hname hnone =>
      rw [step_plain hnode hname]
      simp [hnode, Node.entry?, hnone]

theorem components_of_slashless {path : List Char} (h : '/' ∉ path) :
    components path = [String.ofList path] := by
  simp [components, Text.split_eq_splitOn, List.splitOn_eq_singleton h]

/-- A walk fails where a name is blocked after the names before it led somewhere. -/
theorem walk_eq_error_iff {place : Place} {names : List String} {cause : IoCause} :
    place.walk names = .error cause ↔
      ∃ front name behind reached, names = front ++ name :: behind ∧
        place.walk front = .ok reached ∧ reached.Blocks name cause := by
  constructor
  · intro h
    induction names generalizing place with
    | nil => cases h
    | cons name rest ih =>
      rw [walk] at h
      cases hstep : place.step name with
      | error found =>
        rw [hstep] at h
        cases h
        exact ⟨[], name, rest, place, rfl, rfl, step_eq_error_iff.mp hstep⟩
      | ok next =>
        rw [hstep] at h
        obtain ⟨front, blocked, behind, reached, rfl, hreached, hblocks⟩ := ih h
        refine ⟨name :: front, blocked, behind, reached, rfl, ?_, hblocks⟩
        rw [walk, hstep]
        exact hreached
  · rintro ⟨front, name, behind, reached, rfl, hreached, hblocks⟩
    rw [walk_append, hreached]
    change reached.walk (name :: behind) = .error cause
    rw [walk, step_eq_error_iff.mpr hblocks]
    rfl

end Place

namespace FileTree

/-- The names that are followed from the top of the tree for a path. -/
def route (files : FileTree) (path : String) : List String :=
  if isAbsolute path then Place.components path.toList
  else files.directory ++ Place.components path.toList

/-- Why a path leads nowhere: it is no path at all, or a name on its way is
blocked. -/
inductive Obstructed (files : FileTree) (path : String) : IoCause → Prop
  | nul (hnul : '\x00' ∈ path.toList) : files.Obstructed path .nulInName
  | empty (hempty : path = "") : files.Obstructed path .notFound
  | long (hnul : '\x00' ∉ path.toList) (hlong : Place.maxPath < path.utf8ByteSize) :
    files.Obstructed path .nameTooLong
  | blocked {front behind : List String} {name : String} {reached : Place}
    {cause : IoCause} (hnul : '\x00' ∉ path.toList) (hempty : path ≠ "")
    (hfits : path.utf8ByteSize ≤ Place.maxPath)
    (hroute : files.route path = front ++ name :: behind)
    (hreached : files.top.walk front = .ok reached)
    (hblocks : reached.Blocks name cause) : files.Obstructed path cause

theorem locate_eq_walk_route {files : FileTree} {path : String}
    (hnul : '\x00' ∉ path.toList) (hempty : path ≠ "")
    (hfits : path.utf8ByteSize ≤ Place.maxPath) :
    files.locate path = files.top.walk (files.route path) := by
  rw [locate_eq hnul hempty hfits, start, route]
  split
  · rfl
  · rw [Place.walk_append]

theorem locate_eq_error_iff {files : FileTree} {path : String} {cause : IoCause} :
    files.locate path = .error cause ↔ files.Obstructed path cause := by
  constructor
  · intro h
    by_cases hnul : '\x00' ∈ path.toList
    · have hcause : cause = .nulInName := by simpa [locate, hnul] using h.symm
      exact hcause ▸ .nul hnul
    by_cases hempty : path = ""
    · have hcause : cause = .notFound := by simpa [locate, hempty] using h.symm
      exact hcause ▸ .empty hempty
    by_cases hlong : Place.maxPath < path.utf8ByteSize
    · have hcause : cause = .nameTooLong := by
        simpa [locate, hnul, hempty, hlong] using h.symm
      exact hcause ▸ .long hnul hlong
    · have hfits := Nat.not_lt.mp hlong
      rw [locate_eq_walk_route hnul hempty hfits, Place.walk_eq_error_iff] at h
      obtain ⟨front, name, behind, reached, hroute, hreached, hblocks⟩ := h
      exact .blocked hnul hempty hfits hroute hreached hblocks
  · intro h
    cases h with
    | nul hnul => simp [locate, hnul]
    | empty hempty => simp [locate, hempty]
    | long hnul hlong =>
      have hempty : path ≠ "" := by
        rintro rfl
        simp at hlong
      simp [locate, hnul, hempty, hlong]
    | blocked hnul hempty hfits hroute hreached hblocks =>
      rw [locate_eq_walk_route hnul hempty hfits, Place.walk_eq_error_iff]
      exact ⟨_, _, _, _, hroute, hreached, hblocks⟩

theorem has_eq_false_iff {files : FileTree} {path : String} :
    files.has path = false ↔ ∃ cause, files.Obstructed path cause := by
  simp only [← locate_eq_error_iff, has]
  cases files.locate path <;> simp

theorem read_of_obstructed {files : FileTree} {path : String} {cause : IoCause}
    (h : files.Obstructed path cause) : files.read path = .error cause := by
  rw [read, locate_eq_error_iff.mpr h]
  rfl

theorem has_of_read {files : FileTree} {path text : String}
    (h : files.read path = .ok text) : files.has path = true := by
  obtain ⟨place, _, hplace, _⟩ := read_eq_ok_iff.mp h
  simp [has, hplace]

end FileTree

namespace Source

/-- What is loaded from a path is there, under that path and of the kind the path
says. -/
def HoldsWhatItLoads (source : Source) : Prop :=
  ∀ path document, source.load path = .ok (some document) →
    source.has path = true ∧ document.path = path ∧
      (document.kind = .structured ↔ structuredEnding <:+ path.toList)

/-- A path without a document: requirements on its content find that missing. -/
def LacksDocument (source : Source) (path : String) : Prop :=
  source.load path = .ok none ∧
    ∀ requirement : Requirement, requirement.ReadsContent → requirement.path = path →
      requirement.evaluate source = .ok [.missingArtifact path]

/-- A path that cannot be read: requirements on its content fail alike. -/
def FailsToLoad (source : Source) (path : String) (failure : GateError) : Prop :=
  source.load path = .error failure ∧
    ∀ requirement : Requirement, requirement.ReadsContent → requirement.path = path →
      requirement.evaluate source = .error failure

variable {source : Source} {path : String}

theorem holdsWhatItLoads_of_read
    (h : ∀ path text, source.read path = .ok (some text) → source.has path = true) :
    source.HoldsWhatItLoads := by
  intro path document hload
  have hpath := path_of_load hload
  obtain ⟨content, hread, hcontent⟩ := map_eq_ok_iff.mp hload
  obtain ⟨text, rfl, _⟩ := Option.map_eq_some_iff.mp hcontent
  refine ⟨h path text hread, hpath, ?_⟩
  rw [Document.kind_eq_structured_iff, hpath]

theorem lacksDocument_of_read (h : source.read path = .ok none) :
    source.LacksDocument path := by
  have hload : source.load path = .ok none := by simp [load, h, Except.map]
  refine ⟨hload, ?_⟩
  rintro requirement hreads rfl
  exact Requirement.evaluate_absent hreads hload

theorem failsToLoad_of_read {failure : GateError}
    (h : source.read path = .error failure) : source.FailsToLoad path failure := by
  have hload : source.load path = .error failure := by simp [load, h, Except.map]
  refine ⟨hload, ?_⟩
  rintro requirement hreads rfl
  exact Requirement.evaluate_unreadable hreads hload

end Source

theorem MemorySource.has_of_content? {memory : MemorySource} {path text : String}
    (h : memory.content? path = some text) : memory.has path = true := by
  simp [has, h]

theorem MemorySource.content?_of_has_eq_false {memory : MemorySource} {path : String}
    (h : memory.has path = false) : memory.content? path = none := by
  rw [has, Bool.or_eq_false_iff, Option.isSome_eq_false_iff,
    Option.isNone_iff_eq_none] at h
  exact h.1

namespace Workspace

variable {files : FileTree} {root path : String} {cause : IoCause}

@[simp] theorem join_empty (path : String) : join "" path = path := by simp [join]

theorem read_of_obstructed (h : files.Obstructed (join root path) cause) :
    (Workspace.mk root files.access).read path =
      if cause = .notFound then .ok none else .error (.io path cause) := by
  have hread := FileTree.read_of_obstructed h
  simp only [read, resolve, FileTree.access, hread]
  cases cause <;> rfl

/-- Whatever the obstacle is, it decides how the path is loaded. -/
theorem load_of_obstructed (h : files.Obstructed (join root path) cause) :
    if cause = .notFound then
      (Workspace.mk root files.access).source.LacksDocument path
    else (Workspace.mk root files.access).source.FailsToLoad path (.io path cause) := by
  have hread := read_of_obstructed h
  split
  · next hcause => exact Source.lacksDocument_of_read (hread.trans (if_pos hcause))
  · next hcause => exact Source.failsToLoad_of_read (hread.trans (if_neg hcause))

theorem has_of_read {text : String}
    (h : (Workspace.mk root files.access).read path = .ok (some text)) :
    files.has (join root path) = true := by
  unfold read at h
  split at h
  · next found hfound => exact FileTree.has_of_read hfound
  · cases h
  · cases h

end Workspace

/-- Documents that are not there. In memory a path that is not there has no
document. On a disk such a path meets an obstacle: a name that is not found means
no document, and any other obstacle is an error that names the path. What either
of them loads is there. -/
theorem documents_that_are_not_there :
    (∀ memory : MemorySource, memory.source.HoldsWhatItLoads ∧
      ∀ path, memory.source.has path = false → memory.source.LacksDocument path) ∧
    ∀ (files : FileTree) (root : String),
      let disk := (Workspace.mk root files.access).source
      disk.HoldsWhatItLoads ∧
      ∀ path,
        (disk.has path = false ↔
          ∃ cause, files.Obstructed (Workspace.join root path) cause) ∧
        ∀ cause, files.Obstructed (Workspace.join root path) cause →
          if cause = .notFound then disk.LacksDocument path
          else disk.FailsToLoad path (.io path cause) := by
  constructor
  · intro memory
    constructor
    · apply Source.holdsWhatItLoads_of_read
      intro path text hread
      exact MemorySource.has_of_content? (Except.ok.inj hread)
    · intro path hhas
      apply Source.lacksDocument_of_read
      exact congrArg Except.ok (MemorySource.content?_of_has_eq_false hhas)
  · intro files root disk
    constructor
    · apply Source.holdsWhatItLoads_of_read
      intro path text hread
      exact Workspace.has_of_read hread
    · intro path
      exact ⟨FileTree.has_eq_false_iff, fun cause => Workspace.load_of_obstructed⟩

/-- A disk on which a file stands where a directory of controls is looked for. -/
def strayFileDisk : FileTree where
  tree := .directory [("controls", .file "no directory".toUTF8)]
  directory := []

theorem strayFileDisk_obstructed_below_file :
    strayFileDisk.Obstructed "controls/access.md" .notDirectory := by
  have hroute : strayFileDisk.route "controls/access.md" =
      ["controls"] ++ "access.md" :: [] := rfl
  obtain ⟨above, hreached⟩ : ∃ above, strayFileDisk.top.walk ["controls"] =
      .ok ⟨.file "no directory".toUTF8, above⟩ :=
    Place.walk_of_at?_eq_some (List.forall_mem_singleton.mpr (by decide)) rfl
  exact .blocked (by decide) (by decide) (by decide) hroute hreached (.file rfl)

theorem strayFileDisk_obstructed_at_missing :
    strayFileDisk.Obstructed "control" .notFound := by
  have hroute : strayFileDisk.route "control" = [] ++ "control" :: [] := rfl
  exact .blocked (by decide) (by decide) (by decide) hroute rfl
    (.missing rfl (by decide) rfl)

/-- A name of as many letters. -/
def lengthyName (count : Nat) : String := String.ofList (List.replicate count 'a')

theorem utf8ByteSize_lengthyName (count : Nat) :
    (lengthyName count).utf8ByteSize = count := by
  induction count with
  | zero => rfl
  | succ count ih =>
    have hletter : (String.singleton 'a').utf8ByteSize = 1 := by decide
    have hcons : lengthyName (count + 1) =
        String.singleton 'a' ++ lengthyName count := by
      rw [lengthyName, List.replicate_succ, String.ofList_cons]
      rfl
    rw [hcons, String.utf8ByteSize_append, hletter, ih, Nat.add_comm]

theorem strayFileDisk_obstructed_by_length {count : Nat} (hlong : Place.maxName < count)
    (hfits : count ≤ Place.maxPath) :
    strayFileDisk.Obstructed (lengthyName count) .nameTooLong := by
  have hsize := utf8ByteSize_lengthyName count
  have hletter : ∀ c ≠ 'a', c ∉ (lengthyName count).toList := by
    intro c hne hmem
    rw [lengthyName, String.toList_ofList] at hmem
    exact hne (List.eq_of_mem_replicate hmem)
  have hempty : lengthyName count ≠ "" := by
    intro hempty
    rw [hempty, String.utf8ByteSize_empty] at hsize
    omega
  have hrelative : FileTree.isAbsolute (lengthyName count) = false := by
    rw [FileTree.isAbsolute, beq_eq_false_iff_ne]
    intro hhead
    exact hletter '/' (by decide) (List.mem_of_mem_head? hhead)
  have hroute : strayFileDisk.route (lengthyName count) =
      [] ++ lengthyName count :: [] := by
    rw [FileTree.route, hrelative, if_neg Bool.false_ne_true,
      Place.components_of_slashless (hletter '/' (by decide)), String.ofList_toList]
    rfl
  exact .blocked (hletter _ (by decide)) hempty (hsize.symm ▸ hfits) hroute rfl
    (.longName rfl (hsize.symm ▸ hlong))

/-- Controls in a directory. -/
def accessCorpus : MemorySource := .ofList [("controls/access.json", "reviewed")]

theorem documents_that_are_not_there_on_strayFileDisk :
    let disk := (Workspace.mk "" strayFileDisk.access).source
    accessCorpus.source.load "controls/access.json" =
        .ok (some ⟨"controls/access.json", "reviewed"⟩) ∧
      accessCorpus.source.has "controls/access.json" = true ∧
      accessCorpus.source.has "control" = false ∧
      accessCorpus.source.LacksDocument "control" ∧
      strayFileDisk.Obstructed "control" .notFound ∧
      disk.has "control" = false ∧ disk.LacksDocument "control" ∧
      strayFileDisk.Obstructed "controls/access.md" .notDirectory ∧
      disk.has "controls/access.md" = false ∧
      disk.FailsToLoad "controls/access.md"
        (.io "controls/access.md" .notDirectory) := by
  intro disk
  obtain ⟨hmemory, hdisk⟩ := documents_that_are_not_there
  obtain ⟨hholds, hlacks⟩ := hmemory accessCorpus
  have habsent : accessCorpus.source.has "control" = false := by decide
  have hload : accessCorpus.source.load "controls/access.json" =
      .ok (some ⟨"controls/access.json", "reviewed"⟩) := rfl
  have hmissing := strayFileDisk_obstructed_at_missing
  have hfile := strayFileDisk_obstructed_below_file
  have hpaths (path : String) := (hdisk strayFileDisk "").2 path
  simp only [Workspace.join_empty] at hpaths
  exact ⟨hload, (hholds _ _ hload).1, habsent, hlacks _ habsent,
    hmissing, (hpaths _).1.mpr ⟨_, hmissing⟩, (hpaths _).2 _ hmissing,
    hfile, (hpaths _).1.mpr ⟨_, hfile⟩, (hpaths _).2 _ hfile⟩

/-- A path below a file, a name that is too long and a NUL: nothing is there, but
these paths do not count as absent. -/
theorem unreadable_paths_are_not_absent :
    let disk := (Workspace.mk "" strayFileDisk.access).source
    (disk.has "controls/access.md" = false ∧
        disk.load "controls/access.md" =
          .error (.io "controls/access.md" .notDirectory) ∧
        ¬disk.LacksDocument "controls/access.md") ∧
      (disk.has (lengthyName 256) = false ∧
        disk.load (lengthyName 256) =
          .error (.io (lengthyName 256) .nameTooLong) ∧
        ¬disk.LacksDocument (lengthyName 256)) ∧
      disk.has "access\x00.md" = false ∧
        disk.load "access\x00.md" = .error (.io "access\x00.md" .nulInName) ∧
        ¬disk.LacksDocument "access\x00.md" := by
  intro disk
  have hunreadable {path : String} {cause : IoCause} (hcause : cause ≠ .notFound)
      (h : strayFileDisk.Obstructed path cause) :
      disk.has path = false ∧ disk.load path = .error (.io path cause) ∧
        ¬disk.LacksDocument path := by
    rw [← Workspace.join_empty path] at h
    have hfails := Workspace.load_of_obstructed h
    rw [if_neg hcause] at hfails
    refine ⟨FileTree.has_eq_false_iff.mpr ⟨cause, h⟩, hfails.1, ?_⟩
    intro hlacks
    cases hfails.1.symm.trans hlacks.1
  have hlong : strayFileDisk.Obstructed (lengthyName 256) .nameTooLong :=
    strayFileDisk_obstructed_by_length (by decide) (by decide)
  exact ⟨hunreadable (by decide) strayFileDisk_obstructed_below_file,
    hunreadable (by decide) hlong, hunreadable (by decide) (.nul (by decide))⟩

end Compliance
