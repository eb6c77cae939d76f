import Compliance.Proofs.BelowRoot
import Compliance.Proofs.DiskAndMemory
import Compliance.Proofs.MissingPaths

/-!
Edits of a disk and the gates. A document that is written, a directory that is made and
whatever is taken away change nothing but what stands at the place of the edit or below
it, so gates that ask for nothing there come to the same. After something was taken away
the freeze gate finds its path missing, and all paths below it; a directory that was made
is not missing, but no gate can read it.
-/

namespace Compliance

namespace Node

/-- What names lead to: nowhere, a directory, or a file with these bytes. -/
def contents? (node : Node) (names : List String) : Option (Option ByteArray) :=
  (node.at? names).map bytes?

/-- Two nodes are alike but for what stands at a place or below it. -/
def AlikeOutside (names : List String) (node other : Node) : Prop :=
  ∀ place, ¬names <+: place → node.contents? place = other.contents? place

theorem contents?_nil (node : Node) : node.contents? [] = some node.bytes? := rfl

theorem contents?_cons (node : Node) (name : String) (rest : List String) :
    node.contents? (name :: rest) =
      (node.entry? name).bind fun child => child.contents? rest := by
  rw [contents?, at?_cons, Option.map_bind]
  rfl

/-! ## Taking away -/

theorem bytes?_erase (node : Node) (names : List String) :
    (node.erase names).bytes? = node.bytes? := by
  cases node with
  | file bytes => cases names <;> simp [erase, entry?]
  | directory entries =>
    cases names with
    | nil => rfl
    | cons name rest =>
      cases rest with
      | nil => rfl
      | cons second rest =>
        rw [erase]
        · split <;> rfl
        · simp

theorem entry?_erase (node : Node) (name other : String) (rest : List String) :
    Node.entry? other (node.erase (name :: rest)) =
      if other = name then
        if rest = [] then none else (node.entry? name).map fun child => child.erase rest
      else node.entry? other := by
  cases node with
  | file bytes => simp [erase, entry?]
  | directory entries =>
    cases rest with
    | nil =>
      rw [erase, if_pos rfl]
      split
      · next h =>
        subst h
        change (entries.filter (·.1 != other)).lookup other = none
        rw [List.lookup_eq_none_iff]
        intro entry hentry
        have hname := (List.mem_filter.mp hentry).2
        simpa [bne_comm] using hname
      · next h => exact lookup_filter_ne h entries
    | cons second rest =>
      rw [erase]
      · cases hentry : Node.entry? name (directory entries) with
        | none =>
          by_cases hother : other = name
          · simp [hother, hentry]
          · simp [hother]
        | some child => simp [entry?_setEntry]
      · simp

/-- Nothing is left at the place and below it, and all else is as before. -/
theorem contents?_erase (node : Node) {names : List String} (h : names ≠ [])
    (place : List String) :
    (node.erase names).contents? place =
      if names <+: place then none else node.contents? place := by
  induction names generalizing node place with
  | nil => exact absurd rfl h
  | cons name rest ih =>
    cases place with
    | nil => simp [contents?_nil, bytes?_erase]
    | cons other more =>
      rw [contents?_cons, contents?_cons, entry?_erase]
      by_cases hother : other = name
      · subst hother
        simp only [if_true, List.prefix_cons_inj]
        cases hentry : node.entry? other with
        | none => split <;> simp
        | some child =>
          by_cases hrest : rest = []
          · simp [hrest]
          · simpa [hrest] using ih child hrest more
      · simp [hother, Ne.symm hother]

theorem alikeOutside_erase (node : Node) {names : List String} (h : names ≠ []) :
    AlikeOutside names (node.erase names) node := by
  intro place hplace
  rw [contents?_erase node h, if_neg hplace]

/-! ## Making -/

theorem contents?_emptyDirectory {place : List String} (h : place ≠ []) :
    emptyDirectory.contents? place = none := by
  cases place with
  | nil => exact absurd rfl h
  | cons name rest => rfl

/-- There are directories on the way to the place and at it, and all else is as before. -/
theorem contents?_putDirectory (node : Node) (names place : List String) :
    (node.putDirectory names).contents? place =
      if place <+: names then some none else node.contents? place := by
  induction names generalizing node place with
  | nil =>
    cases place with
    | nil => cases node <;> rfl
    | cons name rest => cases node <;> rfl
  | cons name rest ih =>
    cases place with
    | nil =>
      obtain ⟨entries, hentries⟩ := node.setEntry_eq_directory
        (putDirectory ((node.entry? name).getD emptyDirectory) rest) name
      rw [putDirectory, contents?_nil, hentries]
      rfl
    | cons other more =>
      rw [putDirectory, contents?_cons, contents?_cons, entry?_setEntry]
      by_cases hother : other = name
      · subst hother
        simp only [if_true, List.prefix_cons_inj, Option.bind_some, ih]
        cases hentry : node.entry? other with
        | some child => rfl
        | none =>
          by_cases hmore : more <+: rest
          · simp [hmore]
          · have hne : more ≠ [] := by
              rintro rfl
              exact hmore List.nil_prefix
            simp [hmore, contents?_emptyDirectory hne]
      · simp [hother]

/-- On the way to a directory there are directories. -/
theorem contents?_above {node : Node} {front place : List String}
    {entries : List (String × Node)} (h : node.at? front = some (.directory entries))
    (hplace : place <+: front) : node.contents? place = some none := by
  obtain ⟨more, rfl⟩ := hplace
  rw [at?_append] at h
  obtain ⟨found, hfound, hmore⟩ := Option.bind_eq_some_iff.mp h
  rw [contents?, hfound]
  cases found with
  | directory others => rfl
  | file bytes =>
    cases more with
    | nil => cases hmore
    | cons name rest => cases hmore

variable {node : Node} {front : List String} {entries : List (String × Node)}

/-- A directory that is made in another one. -/
theorem alikeOutside_putDirectory (h : node.at? front = some (.directory entries))
    (name : String) :
    AlikeOutside (front ++ [name]) (node.putDirectory (front ++ [name])) node := by
  intro place hplace
  rw [contents?_putDirectory]
  split
  · next habove =>
    rcases List.prefix_concat_iff.mp habove with rfl | habove
    · exact absurd List.prefix_rfl hplace
    · rw [contents?_above h habove]
  · rfl

/-- What is put into a directory. -/
theorem alikeOutside_put (h : node.at? front = some (.directory entries)) (name : String)
    (child : Node) :
    AlikeOutside (front ++ [name]) (node.put (front ++ [name]) child) node := by
  intro place hplace
  by_cases habove : place <+: front ++ [name]
  · have hfront : place <+: front := by
      rcases List.prefix_concat_iff.mp habove with rfl | hfront
      · exact absurd List.prefix_rfl hplace
      · exact hfront
    obtain ⟨more, hmore⟩ := habove
    have hne : more ≠ [] := by
      rintro rfl
      exact hplace (by simp [← hmore])
    obtain ⟨others, hothers⟩ := node.at?_put_above child hne hmore.symm
    rw [contents?_above h hfront, contents?, hothers]
    rfl
  · rw [contents?, contents?, at?_put_apart _ _ hplace habove]

/-! ## Histories -/

/-- A change at one place: something is taken away, a directory is made in another one,
or something is put into a directory. -/
inductive Edit (node : Node) : List String → Node → Prop
  | erase {names : List String} (h : names ≠ []) : Edit node names (node.erase names)
  | make {front : List String} {entries : List (String × Node)} (name : String)
    (h : node.at? front = some (.directory entries)) :
    Edit node (front ++ [name]) (node.putDirectory (front ++ [name]))
  | put {front : List String} {entries : List (String × Node)} (name : String)
    (child : Node) (h : node.at? front = some (.directory entries)) :
    Edit node (front ++ [name]) (node.put (front ++ [name]) child)

theorem Edit.alikeOutside {node edited : Node} {names : List String}
    (h : node.Edit names edited) : AlikeOutside names edited node := by
  cases h with
  | erase hnames => exact alikeOutside_erase node hnames
  | make name hfront => exact alikeOutside_putDirectory hfront name
  | put name child hfront => exact alikeOutside_put hfront name child

/-- One change after the other, at these places. -/
inductive Edits : Node → List (List String) → Node → Prop
  | nil (node : Node) : Edits node [] node
  | cons {node next last : Node} {names : List String} {places : List (List String)}
    (h : node.Edit names next) (hrest : Edits next places last) :
    Edits node (names :: places) last

/-- What lies below none of the places is the same in the end as at the beginning. -/
theorem Edits.contents?_eq {node last : Node} {places : List (List String)}
    (h : Edits node places last) {place : List String}
    (hapart : ∀ names ∈ places, ¬names <+: place) :
    last.contents? place = node.contents? place := by
  induction h with
  | nil node => rfl
  | cons hedit _ ih =>
    obtain ⟨hnames, hplaces⟩ := List.forall_mem_cons.mp hapart
    rw [ih hplaces, hedit.alikeOutside place hnames]

end Node

/-! ## What the gates see -/

namespace Place

/-- Plain names end alike in two places when there is the same all along the way. -/
theorem walk_bytes?_eq {place other : Place} {names : List String}
    (hnames : ∀ name ∈ names, IsPlain name)
    (h : ∀ front, front <+: names →
      place.node.contents? front = other.node.contents? front) :
    (place.walk names).map (·.node.bytes?) = (other.walk names).map (·.node.bytes?) := by
  induction names generalizing place other with
  | nil =>
    have hhere := h [] List.nil_prefix
    rw [Node.contents?_nil, Node.contents?_nil] at hhere
    exact congrArg Except.ok (Option.some.inj hhere)
  | cons name rest ih =>
    obtain ⟨hname, hrest⟩ := List.forall_mem_cons.mp hnames
    have hhere := h [] List.nil_prefix
    rw [Node.contents?_nil, Node.contents?_nil] at hhere
    have hthere (front : List String) (hfront : front <+: rest) :
        (place.node.entry? name).bind (fun child => child.contents? front) =
          (other.node.entry? name).bind fun child => child.contents? front := by
      rw [← Node.contents?_cons, ← Node.contents?_cons]
      exact h _ (List.prefix_cons_inj name |>.mpr hfront)
    cases hplace : place.node with
    | file bytes =>
      cases hother : other.node with
      | file others => rw [walk, walk, step_file hplace, step_file hother]
      | directory entries => simp [hplace, hother, Node.bytes?] at hhere
    | directory entries =>
      cases hother : other.node with
      | file bytes => simp [hplace, hother, Node.bytes?] at hhere
      | directory others =>
        rw [walk, walk, step_plain hplace hname, step_plain hother hname]
        have hnext := hthere [] List.nil_prefix
        cases hchild : place.node.entry? name with
        | none =>
          cases hbehind : other.node.entry? name with
          | none => rfl
          | some behind => simp [hchild, hbehind, Node.contents?_nil] at hnext
        | some child =>
          cases hbehind : other.node.entry? name with
          | none => simp [hchild, hbehind, Node.contents?_nil] at hnext
          | some behind =>
            refine ih hrest fun front hfront => ?_
            simpa only [hchild, hbehind, Option.bind_some] using hthere front hfront

end Place

namespace Workspace

variable {files edited : FileTree} {root path : String} {place other : Place}

/-- A path of plain names gives the same answers on two disks when there is the same
all along its way below the root. -/
theorem answers_of_contents?_eq (hplace : files.rootPlace root = .ok place)
    (hother : edited.rootPlace root = .ok other) (hpath : IsNormal root path)
    (h : ∀ front, front <+: Place.components path.toList →
      other.node.contents? front = place.node.contents? front) :
    (Workspace.mk root edited.access).source.has path =
        (Workspace.mk root files.access).source.has path ∧
      (Workspace.mk root edited.access).source.read path =
        (Workspace.mk root files.access).source.read path := by
  have hends : (edited.locate (join root path)).map (·.node.bytes?) =
      (files.locate (join root path)).map (·.node.bytes?) := by
    rw [locate_resolve hplace hpath, locate_resolve hother hpath]
    exact Place.walk_bytes?_eq hpath.plain h
  obtain ⟨hhas, hread⟩ := FileTree.answers_of_bytes?_eq hends
  exact ⟨hhas, by simp only [source, read, resolve, FileTree.access, hread]⟩

end Workspace

/-- Edits of a disk are nothing to a gate that asks for no path at their places or
below them: it comes to the same after any history of them. -/
theorem Gate.run_after_edits {files edited : FileTree} {root : String}
    {place other : Place} {config : Config} {gate : Gate} {places : List (List String)}
    (hplace : files.rootPlace root = .ok place)
    (hother : edited.rootPlace root = .ok other)
    (hedits : place.node.Edits places other.node)
    (hpaths : ∀ path, gate.Asks config path → IsNormal root path ∧
      ∀ names ∈ places, ¬names <+: Place.components path.toList) :
    gate.run (Workspace.mk root edited.access).source config =
      gate.run (Workspace.mk root files.access).source config := by
  have hanswers (path : String) (hasks : gate.Asks config path) :=
    Workspace.answers_of_contents?_eq hplace hother (hpaths path hasks).1
      fun front hfront => hedits.contents?_eq fun names hnames hbelow =>
        (hpaths path hasks).2 names hnames (hbelow.trans hfront)
  apply run_eq_of_asked
  · rintro rfl path hpath
    exact (hanswers path (.presence hpath)).1
  · intro path hnames
    exact (hanswers path (.content hnames)).2

/-! ## What an edit brings about -/

namespace Workspace

variable {files edited : FileTree} {root path : String} {place other : Place}

theorem has_eq_isSome_contents? (hplace : files.rootPlace root = .ok place)
    (h : IsNormal root path) :
    (Workspace.mk root files.access).source.has path =
      (place.node.contents? (Place.components path.toList)).isSome := by
  rw [has_eq hplace h, Node.contents?, Option.isSome_map]

/-- What was taken away is gone, with all that was below it. -/
theorem has_after_erase {gone : String} (hplace : files.rootPlace root = .ok place)
    (hother : edited.rootPlace root = .ok other)
    (herased : other.node = place.node.erase (Place.components gone.toList))
    (h : IsNormal root path) :
    (Workspace.mk root edited.access).source.has path = true ↔
      ¬(path = gone ∨ Below gone path) ∧
        (Workspace.mk root files.access).source.has path = true := by
  rw [has_eq_isSome_contents? hother h, has_eq_isSome_contents? hplace h, herased,
    Node.contents?_erase _ (Place.components_ne_nil _), ← Place.prefix_components_iff]
  split <;> simp [*]

/-- A directory that was made is there, and reading it is an error. -/
theorem load_after_make (hother : edited.rootPlace root = .ok other)
    (hmade : other.node = place.node.putDirectory (Place.components path.toList))
    (h : IsNormal root path) :
    (Workspace.mk root edited.access).source.has path = true ∧
      (Workspace.mk root edited.access).source.load path =
        .error (.io path .isDirectory) := by
  have hcontents : other.node.contents? (Place.components path.toList) = some none := by
    rw [hmade, Node.contents?_putDirectory, if_pos List.prefix_rfl]
  obtain ⟨made, hfound, hbytes⟩ := Option.map_eq_some_iff.mp hcontents
  obtain ⟨above, hwalk⟩ := Place.walk_of_at?_eq_some h.plain hfound
  have hread : edited.read (join root path) = .error .isDirectory := by
    rw [FileTree.read, locate_resolve hother h, hwalk]
    cases made with
    | directory entries => rfl
    | file bytes => cases hbytes
  refine ⟨by rw [has_eq hother h, hfound]; rfl, ?_⟩
  simp [Source.load, source, read, resolve, FileTree.access, hread, Except.map]

end Workspace

/-- A gate that gets as far as loading the path of a directory that was made stops with
the error, though the freeze gate does not miss that path. -/
theorem Gate.run_after_make {edited : FileTree} {root path : String}
    {place other : Place} {config : Config} {gate : Gate}
    (hother : edited.rootPlace root = .ok other)
    (hmade : other.node = place.node.putDirectory (Place.components path.toList))
    (hpath : IsNormal root path)
    (hreaches : gate.Reaches (Workspace.mk root edited.access).source config path) :
    gate.run (Workspace.mk root edited.access).source config =
        .error (.io path .isDirectory) ∧
      path ∉ Freeze.missingPaths (Workspace.mk root edited.access).source
        config.freeze := by
  obtain ⟨hhas, hload⟩ := Workspace.load_after_make hother hmade hpath
  refine ⟨run_of_reaches hreaches hload, ?_⟩
  simp [Freeze.missingPaths, hhas]

/-- After something was taken away the freeze gate finds missing what it found missing
before, the path of what is gone, and all paths below it. -/
theorem Freeze.missingPaths_after_erase {files edited : FileTree} {root gone : String}
    {place other : Place} {config : FreezeConfig}
    (hplace : files.rootPlace root = .ok place)
    (hother : edited.rootPlace root = .ok other)
    (herased : other.node = place.node.erase (Place.components gone.toList))
    (hpaths : ∀ path ∈ config.requiredPaths, IsNormal root path) :
    missingPaths (Workspace.mk root edited.access).source config =
      config.requiredPaths.filter fun path => path = gone ∨ Below gone path ∨
        (Workspace.mk root files.access).source.has path = false := by
  apply List.filter_congr
  intro path hpath
  have hthere := Workspace.has_after_erase hplace hother herased (hpaths path hpath)
  rw [Bool.eq_iff_iff, Bool.not_eq_true', ← Bool.not_eq_true, hthere, decide_eq_true_iff]
  rw [not_and_or, not_not, Bool.not_eq_true, or_assoc]

/-- The directory above a required document is taken away. -/
example :
    let tree := Node.emptyDirectory.put ["access", "plan.md"] (.file "reviewed".toUTF8)
    let config : FreezeConfig := { requiredPaths := ["access/plan.md", "ledger.json"] }
    let missing (tree : Node) :=
      Freeze.missingPaths (Workspace.mk "" (FileTree.mk tree []).access).source config
    missing tree = ["ledger.json"] ∧
      missing (tree.erase ["access"]) = ["access/plan.md", "ledger.json"] := by
  decide +kernel

end Compliance
