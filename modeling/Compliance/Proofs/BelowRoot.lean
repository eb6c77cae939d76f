import Compliance.Proofs.AbsentDocuments
import Compliance.Proofs.NamedValues
import Compliance.Proofs.SourceAgreement
import Mathlib.Data.Option.Basic

/-!
What lies below a root decides what the gates see of a disk. A relative path that
never goes up leads to the same in two directories of the same contents, however the
trees around them differ, so the gates come to the same outcomes.
-/

namespace Compliance

namespace Node

/-- What a file holds; a directory has no bytes of its own. -/
def bytes? : Node → Option ByteArray
  | file bytes => some bytes
  | directory _ => none

/-- Plain names lead to the same from both nodes: nowhere, to a directory, or to a
file of these bytes. -/
def SameContents (first second : Node) : Prop :=
  ∀ names, (∀ name ∈ names, Place.IsPlain name) →
    (first.at? names).map bytes? = (second.at? names).map bytes?

namespace SameContents

variable {first second : Node}

theorem bytes?_eq (h : first.SameContents second) : first.bytes? = second.bytes? := by
  simpa using h [] (by simp)

/-- Entries of the same name have the same contents again. -/
theorem entry? (h : first.SameContents second) {name : String}
    (hname : Place.IsPlain name) :
    Option.Rel SameContents (first.entry? name) (second.entry? name) := by
  have hthere := h [name] (by simpa using hname)
  cases hfirst : first.entry? name with
  | none =>
    cases hsecond : second.entry? name with
    | none => exact .none
    | some child => simp [at?_cons, hfirst, hsecond] at hthere
  | some child =>
    cases hsecond : second.entry? name with
    | none => simp [at?_cons, hfirst, hsecond] at hthere
    | some other =>
      refine .some fun names hnames => ?_
      have hbelow := h (name :: names) (List.forall_mem_cons.mpr ⟨hname, hnames⟩)
      simpa only [at?_cons, hfirst, hsecond, Option.bind_some] using hbelow

/-- The order of the entries of a directory does not matter. -/
theorem of_lookup_eq {entries others : List (String × Node)}
    (h : ∀ name, entries.lookup name = others.lookup name) :
    (directory entries).SameContents (directory others) := by
  intro names _
  cases names with
  | nil => rfl
  | cons name rest => rw [at?_cons, at?_cons, Node.entry?, Node.entry?, h name]

end SameContents

end Node

namespace Place

/-- Two walks end alike: blocked for the same cause, or at places of the same
contents. -/
inductive EndAlike : Except IoCause Place → Except IoCause Place → Prop
  | blocked (cause : IoCause) : EndAlike (.error cause) (.error cause)
  | reached {first second : Place} (h : first.node.SameContents second.node) :
    EndAlike (.ok first) (.ok second)

theorem EndAlike.bind {front other : Except IoCause Place}
    {next another : Place → Except IoCause Place} (h : EndAlike front other)
    (hnext : ∀ {first second : Place}, first.node.SameContents second.node →
      EndAlike (next first) (another second)) :
    EndAlike (front.bind next) (other.bind another) := by
  cases h with
  | blocked cause => exact .blocked cause
  | reached hsame => exact hnext hsame

variable {first second : Place}

/-- A step that does not go up cannot tell places of the same contents apart. -/
theorem step_endAlike (h : first.node.SameContents second.node) {name : String}
    (hdown : name ≠ "..") : EndAlike (first.step name) (second.step name) := by
  have hbytes := h.bytes?_eq
  cases hfirst : first.node with
  | file bytes =>
    cases hsecond : second.node with
    | file others =>
      rw [step_file hfirst, step_file hsecond]
      exact .blocked _
    | directory entries => simp [hfirst, hsecond, Node.bytes?] at hbytes
  | directory entries =>
    cases hsecond : second.node with
    | file bytes => simp [hfirst, hsecond, Node.bytes?] at hbytes
    | directory others =>
      by_cases hself : name = "" ∨ name = "."
      · simp only [step, hfirst, hsecond, hself, if_true]
        exact .reached h
      by_cases hlong : maxName < name.utf8ByteSize
      · rw [step_eq_error_iff.mpr (.longName hfirst hlong),
          step_eq_error_iff.mpr (.longName hsecond hlong)]
        exact .blocked _
      · have hself := not_or.mp hself
        have hplain : IsPlain name := ⟨hself.1, hself.2, hdown, Nat.not_lt.mp hlong⟩
        rw [step_plain hfirst hplain, step_plain hsecond hplain]
        have hentry := h.entry? hplain
        generalize first.node.entry? name = found at hentry ⊢
        generalize second.node.entry? name = other at hentry ⊢
        cases hentry with
        | none => exact .blocked _
        | some hchild => exact .reached hchild

theorem walk_endAlike (h : first.node.SameContents second.node) {names : List String}
    (hdown : ".." ∉ names) : EndAlike (first.walk names) (second.walk names) := by
  induction names generalizing first second with
  | nil => exact .reached h
  | cons name rest ih =>
    obtain ⟨hname, hrest⟩ := not_or.mp (mt List.mem_cons.mpr hdown)
    exact (step_endAlike h (Ne.symm hname)).bind fun hnext => ih hnext hrest

end Place

namespace Workspace

variable {first second : FileTree} {front other : Place} {root path : String}

/-- A path that never goes up from the root ends alike in two trees that agree
below it. -/
theorem locate_endAlike (hfront : first.rootPlace root = .ok front)
    (hother : second.rootPlace root = .ok other)
    (hsame : front.node.SameContents other.node)
    (hrelative : FileTree.isAbsolute path = false)
    (hdown : ".." ∉ Place.components path.toList) :
    Place.EndAlike (first.locate (join root path)) (second.locate (join root path)) := by
  -- What makes it no path at all is the same in both trees.
  have hblocked (cause : IoCause)
      (h : ∀ files : FileTree, files.Obstructed (join root path) cause) :
      Place.EndAlike (first.locate (join root path))
        (second.locate (join root path)) := by
    rw [FileTree.locate_eq_error_iff.mpr (h first),
      FileTree.locate_eq_error_iff.mpr (h second)]
    exact .blocked cause
  by_cases hnul : '\x00' ∈ (join root path).toList
  · exact hblocked _ fun _ => .nul hnul
  by_cases hempty : join root path = ""
  · exact hblocked _ fun _ => .empty hempty
  by_cases hlong : Place.maxPath < (join root path).utf8ByteSize
  · exact hblocked _ fun _ => .long hnul hlong
  have hpathNul : '\x00' ∉ path.toList :=
    fun hmember => hnul ((suffix_join root path).subset hmember)
  rw [locate_join hfront hrelative hempty hpathNul (Nat.not_lt.mp hlong),
    locate_join hother hrelative hempty hpathNul (Nat.not_lt.mp hlong)]
  exact Place.walk_endAlike hsame hdown

end Workspace

namespace FileTree

variable {first second : FileTree} {path other : String}

/-- Whether a path is there and what is read at it depends on no more of the place it
leads to than the bytes there. -/
theorem answers_of_bytes?_eq
    (h : (first.locate path).map (·.node.bytes?) =
      (second.locate other).map (·.node.bytes?)) :
    first.has path = second.has other ∧ first.read path = second.read other := by
  unfold has read
  cases hfirst : first.locate path with
  | error cause =>
    cases hsecond : second.locate other with
    | error failure =>
      rw [hfirst, hsecond] at h
      cases h
      exact ⟨rfl, rfl⟩
    | ok place => simp [hfirst, hsecond, Except.map] at h
  | ok front =>
    cases hsecond : second.locate other with
    | error failure => simp [hfirst, hsecond, Except.map] at h
    | ok behind =>
      have hbytes : front.node.bytes? = behind.node.bytes? := by
        simpa [hfirst, hsecond, Except.map] using h
      refine ⟨rfl, ?_⟩
      simp only [Except.bind]
      cases hfront : front.node <;> cases hbehind : behind.node <;>
        simp_all [Node.bytes?]

end FileTree

theorem Place.EndAlike.bytes?_eq {front other : Except IoCause Place}
    (h : EndAlike front other) :
    front.map (·.node.bytes?) = other.map (·.node.bytes?) := by
  cases h with
  | blocked cause => rfl
  | reached hsame => exact congrArg Except.ok hsame.bytes?_eq

/-- A relative path that nowhere goes up. -/
def GoesDown (path : String) : Prop :=
  FileTree.isAbsolute path = false ∧ ".." ∉ Place.components path.toList

instance (path : String) : Decidable (GoesDown path) :=
  inferInstanceAs (Decidable (_ ∧ _))

/-- The gates read nothing but what is below the root. Under a configuration whose
paths are relative and do not go up, they come to the same outcomes on any two disks
on which the root is a directory of the same contents. -/
theorem gates_read_only_below_root {config : Config} {root : String}
    (hconfig : ∀ path ∈ config.freeze.requiredPaths ++ config.contentPaths, GoesDown path)
    {first second : FileTree} {front other : Place}
    (hfront : first.rootPlace root = .ok front)
    (hother : second.rootPlace root = .ok other)
    (hsame : front.node.SameContents other.node) :
    (∀ gate : Gate, gate.run (Workspace.mk root first.access).source config =
        gate.run (Workspace.mk root second.access).source config) ∧
      Pipeline.run (Workspace.mk root first.access).source config =
        Pipeline.run (Workspace.mk root second.access).source config := by
  have hends : ∀ path ∈ config.freeze.requiredPaths ++ config.contentPaths,
      Place.EndAlike (first.locate (Workspace.join root path))
        (second.locate (Workspace.join root path)) := by
    intro path hpath
    obtain ⟨hrelative, hdown⟩ := hconfig path hpath
    exact Workspace.locate_endAlike hfront hother hsame hrelative hdown
  have halike : config.Alike (Workspace.mk root first.access).source
      (Workspace.mk root second.access).source := by
    constructor
    · intro path hpath
      exact (FileTree.answers_of_bytes?_eq
        (hends path (List.mem_append_left _ hpath)).bytes?_eq).1
    · intro path hpath
      have hread := (FileTree.answers_of_bytes?_eq
        (hends path (List.mem_append_right _ hpath)).bytes?_eq).2
      simp only [Workspace.source, Workspace.read, Workspace.resolve, FileTree.access,
        hread]
  exact ⟨Gate.run_congr halike, Pipeline.run_congr halike⟩

/-- A configuration with paths of all spellings, one of them below a file. -/
def spelledConfig : Config where
  freeze := { requiredPaths := ["./controls//access.md", "controls/"] }
  approvals := { ledger := "controls/access.md/ledger.json" }
  schema :=
    { path := "schema.json", requiredFields := .ofList ["id"],
      eventTypes := .ofList ["paid"] }

def controlsEntry : String × Node :=
  ("controls", .directory [("access.md", .file "reviewed".toUTF8)])

def schemaEntry : String × Node := ("schema.json", .file "{}".toUTF8)

/-- A disk that holds a release and nothing else. -/
def tidyDisk : FileTree where
  tree := .directory [("release", .directory [controlsEntry, schemaEntry])]
  directory := []

/-- The same release among other files, some way down from the top of the disk. -/
def crowdedDisk : FileTree where
  tree := .directory
    [("archive", .directory
      [("ledger.json", .file "{}".toUTF8),
       ("release", .directory [schemaEntry, controlsEntry])])]
  directory := ["archive"]

theorem gates_read_only_below_release :
    (∀ path ∈ spelledConfig.freeze.requiredPaths ++ spelledConfig.contentPaths,
        GoesDown path) ∧
      (∃ above, tidyDisk.rootPlace "release" =
        .ok ⟨.directory [controlsEntry, schemaEntry], above⟩) ∧
      (∃ above, crowdedDisk.rootPlace "release" =
        .ok ⟨.directory [schemaEntry, controlsEntry], above⟩) ∧
      (Node.directory [controlsEntry, schemaEntry]).SameContents
        (.directory [schemaEntry, controlsEntry]) ∧
      Pipeline.run (Workspace.mk "release" tidyDisk.access).source spelledConfig =
        Pipeline.run (Workspace.mk "release" crowdedDisk.access).source spelledConfig := by
  have hconfig : ∀ path ∈ spelledConfig.freeze.requiredPaths ++
      spelledConfig.contentPaths, GoesDown path := by
    decide +kernel
  have htidy : ∃ above, tidyDisk.rootPlace "release" =
      .ok ⟨.directory [controlsEntry, schemaEntry], above⟩ := ⟨_, rfl⟩
  have hcrowded : ∃ above, crowdedDisk.rootPlace "release" =
      .ok ⟨.directory [schemaEntry, controlsEntry], above⟩ := ⟨_, rfl⟩
  have hsame : (Node.directory [controlsEntry, schemaEntry]).SameContents
      (.directory [schemaEntry, controlsEntry]) := by
    apply Node.SameContents.of_lookup_eq
    intro name
    by_cases hname : name = "controls" <;>
      simp [controlsEntry, schemaEntry, lookup_cons_eq, hname]
  obtain ⟨_, hfront⟩ := htidy
  obtain ⟨_, hother⟩ := hcrowded
  exact ⟨hconfig, ⟨_, hfront⟩, ⟨_, hother⟩, hsame,
    (gates_read_only_below_root hconfig hfront hother hsame).2⟩

end Compliance
