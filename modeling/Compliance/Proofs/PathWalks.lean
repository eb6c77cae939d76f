import Compliance.Source.Workspace

/-!
Paths and the places they lead to. Below a directory a path of plain names leads
where its names lead entry by entry, whatever path the directory itself is
reached by.
-/

namespace Compliance

theorem fromUTF8?_toUTF8 (text : String) :
    String.fromUTF8? text.toUTF8 = some text :=
  dif_pos text.isValidUTF8

/-- A path lies below another one when that one, with a slash, is in front of it. -/
def Below (directory path : String) : Prop :=
  (directory.toList ++ ['/']) <+: path.toList

instance (directory path : String) : Decidable (Below directory path) :=
  inferInstanceAs (Decidable (_ <+: _))

namespace Place

theorem components_append (front behind : List Char) :
    components (front ++ '/' :: behind) = components front ++ components behind := by
  simp only [components, Text.split_eq_splitOn, List.splitOn_append_cons_self,
    List.map_append]

theorem components_ne_nil (path : List Char) : components path ≠ [] := by
  simp [components, Text.split_eq_splitOn]

theorem intercalate_components (path : String) :
    "/".intercalate (components path.toList) = path := by
  rw [← String.toList_inj, String.toList_intercalate]
  simp [components, Text.split_eq_splitOn, Function.comp_def]

theorem components_inj {first second : String}
    (h : components first.toList = components second.toList) : first = second := by
  rw [← intercalate_components first, h, intercalate_components]

theorem below_iff {directory path : String} :
    Below directory path ↔
      ∃ more, more ≠ [] ∧
        components path.toList = components directory.toList ++ more := by
  constructor
  · rintro ⟨rest, hrest⟩
    refine ⟨components rest, components_ne_nil rest, ?_⟩
    rw [← hrest, List.append_assoc]
    exact components_append directory.toList rest
  · rintro ⟨more, hmore, hpath⟩
    have hjoined : path = directory ++ "/" ++ "/".intercalate more := by
      rw [← intercalate_components path, hpath,
        String.intercalate_append_of_ne_nil (components_ne_nil _) hmore,
        intercalate_components]
    exact ⟨("/".intercalate more).toList, by rw [hjoined]; simp⟩

theorem prefix_components_iff {directory path : String} :
    components directory.toList <+: components path.toList ↔
      path = directory ∨ Below directory path := by
  rw [below_iff]
  constructor
  · rintro ⟨more, hmore⟩
    by_cases hnil : more = []
    · rw [hnil, List.append_nil] at hmore
      exact .inl (components_inj hmore.symm)
    · exact .inr ⟨more, hnil, hmore.symm⟩
  · rintro (rfl | ⟨more, _, hmore⟩)
    · exact List.prefix_rfl
    · exact ⟨more, hmore.symm⟩

/-- A name that leads from a directory to the entry of that name. -/
def IsPlain (name : String) : Prop :=
  name ≠ "" ∧ name ≠ "." ∧ name ≠ ".." ∧ name.utf8ByteSize ≤ maxName

instance (name : String) : Decidable (IsPlain name) :=
  inferInstanceAs (Decidable (_ ∧ _ ∧ _ ∧ _))

end Place

namespace Node

/-- The node that names lead to, entry by entry. -/
def at? : Node → List String → Option Node
  | node, [] => some node
  | node, name :: rest => (node.entry? name).bind fun child => child.at? rest

@[simp] theorem at?_nil (node : Node) : node.at? [] = some node := rfl

theorem at?_cons (node : Node) (name : String) (rest : List String) :
    node.at? (name :: rest) = (node.entry? name).bind fun child => child.at? rest :=
  rfl

theorem at?_append (node : Node) (names more : List String) :
    node.at? (names ++ more) = (node.at? names).bind fun child => child.at? more := by
  induction names generalizing node with
  | nil => rfl
  | cons name rest ih =>
    rw [List.cons_append, at?_cons, at?_cons, Option.bind_assoc]
    simp only [ih]

theorem at?_file (bytes : ByteArray) {names : List String} (h : names ≠ []) :
    (file bytes).at? names = none := by
  cases names with
  | nil => exact absurd rfl h
  | cons name rest => rfl

end Node

namespace Place

theorem step_file {place : Place} {bytes : ByteArray} (h : place.node = .file bytes)
    (name : String) : place.step name = .error .notDirectory := by
  simp [step, h]

theorem step_plain {place : Place} {entries : List (String × Node)} {name : String}
    (h : place.node = .directory entries) (hname : IsPlain name) :
    place.step name =
      match place.node.entry? name with
      | some child => .ok ⟨child, place.node :: place.above⟩
      | none => .error .notFound := by
  obtain ⟨hempty, hself, hparent, hshort⟩ := hname
  cases hfound : entries.lookup name <;>
    simp [step, h, hempty, hself, hparent, Nat.not_lt.mpr hshort, Node.entry?, hfound]

theorem walk_append (place : Place) (names more : List String) :
    place.walk (names ++ more) = (place.walk names).bind fun next => next.walk more := by
  induction names generalizing place with
  | nil => rfl
  | cons name rest ih =>
    rw [List.cons_append, walk, walk]
    cases place.step name with
    | error cause => rfl
    | ok next => exact ih next

/-- A slash at the end of a path does not change where the path leads. -/
theorem walk_of_slash {place next : Place} {path : List Char}
    (h : place.walk (components (path ++ ['/'])) = .ok next) :
    place.walk (components path) = .ok next := by
  rw [components_append, walk_append] at h
  cases hpath : place.walk (components path) with
  | error cause =>
    rw [hpath] at h
    cases h
  | ok reached =>
    rw [hpath] at h
    have hblank : reached.walk [""] = .ok next := h
    -- Behind the slash stands an empty component, which stays where it is.
    cases hnode : reached.node with
    | file bytes => simp [walk, step_file hnode, Except.bind] at hblank
    | directory entries =>
      simpa only [walk, step, hnode, true_or, if_true, Except.bind] using hblank

theorem walk_of_at?_eq_some {place : Place} {names : List String} {node : Node}
    (hnames : ∀ name ∈ names, IsPlain name) (h : place.node.at? names = some node) :
    ∃ above, place.walk names = .ok ⟨node, above⟩ := by
  induction names generalizing place with
  | nil =>
    cases h
    exact ⟨place.above, rfl⟩
  | cons name rest ih =>
    obtain ⟨hname, hrest⟩ := List.forall_mem_cons.mp hnames
    obtain ⟨child, hentry, hchild⟩ := Option.bind_eq_some_iff.mp h
    cases hnode : place.node with
    | file bytes =>
      rw [hnode] at hentry
      cases hentry
    | directory entries =>
      rw [walk, step_plain hnode hname, hentry]
      exact ih hrest hchild

/-- Plain names that lead nowhere end in a file, or at a name that is not there. -/
theorem walk_of_at?_eq_none {place : Place} {names : List String}
    (hnames : ∀ name ∈ names, IsPlain name) (h : place.node.at? names = none) :
    place.walk names = .error .notFound ∨
      place.walk names = .error .notDirectory ∧
        ∃ front more bytes, more ≠ [] ∧ names = front ++ more ∧
          place.node.at? front = some (.file bytes) := by
  induction names generalizing place with
  | nil => cases h
  | cons name rest ih =>
    obtain ⟨hname, hrest⟩ := List.forall_mem_cons.mp hnames
    cases hnode : place.node with
    | file bytes =>
      right
      refine ⟨by rw [walk, step_file hnode]; rfl, [], name :: rest, bytes, ?_, rfl, rfl⟩
      exact List.cons_ne_nil name rest
    | directory entries =>
      rw [walk, step_plain hnode hname]
      rw [Node.at?_cons] at h
      cases hentry : place.node.entry? name with
      | none => exact .inl rfl
      | some child =>
        rw [hentry] at h
        rcases @ih ⟨child, place.node :: place.above⟩ hrest h with
          hmissing | ⟨hfile, front, more, bytes, hmore, rfl, hfront⟩
        · exact .inl hmissing
        · refine .inr ⟨hfile, name :: front, more, bytes, hmore, rfl, ?_⟩
          rw [← hnode, Node.at?_cons, hentry]
          exact hfront

end Place

namespace FileTree

/-- The place where relative paths start when a root stands in front of them; an
empty root is the working directory. -/
def rootPlace (files : FileTree) (root : String) : Except IoCause Place :=
  if root = "" then files.top.walk files.directory else files.locate root

/-- Where the components of a path are followed from. -/
def start (files : FileTree) (path : String) : Except IoCause Place :=
  if isAbsolute path then .ok files.top else files.top.walk files.directory

theorem locate_eq {files : FileTree} {path : String} (hnul : '\x00' ∉ path.toList)
    (hempty : path ≠ "") (hfits : path.utf8ByteSize ≤ Place.maxPath) :
    files.locate path =
      (files.start path).bind fun place => place.walk (Place.components path.toList) := by
  unfold locate start
  simp only [List.contains_iff_mem, hnul, hempty, Nat.not_lt.mpr hfits, if_false]
  split <;> rfl

theorem of_locate_eq_ok {files : FileTree} {path : String} {place : Place}
    (h : files.locate path = .ok place) :
    '\x00' ∉ path.toList ∧ path ≠ "" ∧ path.utf8ByteSize ≤ Place.maxPath := by
  unfold locate at h
  split at h
  · cases h
  · next hnul =>
    split at h
    · cases h
    · next hempty =>
      split at h
      · cases h
      · next hfits => simp_all

theorem start_append {files : FileTree} {root : String} (h : root ≠ "")
    (rest : String) : files.start (root ++ rest) = files.start root := by
  have hhead : (root ++ rest).toList.head? = root.toList.head? := by
    rw [String.toList_append]
    cases hroot : root.toList with
    | nil => exact absurd (by simpa using hroot) h
    | cons c tail => rfl
  rw [start, start, isAbsolute, isAbsolute, hhead]

end FileTree

namespace Workspace

theorem join_eq_append {root : String} (hroot : root ≠ "") {path : String}
    (hpath : FileTree.isAbsolute path = false) :
    ∃ rest, join root path = root ++ rest ∧
      (rest = path ∧ root.toList.getLast? = some '/' ∨ rest = "/" ++ path) := by
  simp only [join, hpath, hroot, Bool.false_eq_true, or_self, if_false]
  split
  · next hslash => exact ⟨path, rfl, .inl ⟨rfl, hslash⟩⟩
  · exact ⟨"/" ++ path, String.append_assoc .., .inr rfl⟩

theorem suffix_join (root path : String) : path.toList <:+ (join root path).toList := by
  unfold join
  split
  · exact List.suffix_rfl
  · split <;> simp only [String.toList_append]
    · exact List.suffix_append root.toList path.toList
    · exact List.suffix_append (root.toList ++ "/".toList) path.toList

theorem join_ne_empty {path : String} (h : path ≠ "") (root : String) :
    join root path ≠ "" := by
  intro hjoin
  have hsuffix := suffix_join root path
  rw [hjoin, String.toList_empty, List.suffix_nil] at hsuffix
  exact h (by simpa using hsuffix)

theorem components_join {root : String} (hroot : root ≠ "") {path : String}
    (hpath : FileTree.isAbsolute path = false) :
    ∃ front, (front = root.toList ∨ root.toList = front ++ ['/']) ∧
      Place.components (join root path).toList =
        Place.components front ++ Place.components path.toList := by
  obtain ⟨rest, hjoin, hrest⟩ := join_eq_append hroot hpath
  rw [hjoin, String.toList_append]
  rcases hrest with ⟨rfl, hslash⟩ | rfl
  · obtain ⟨front, hfront⟩ := List.getLast?_eq_some_iff.mp hslash
    refine ⟨front, .inr hfront, ?_⟩
    rw [hfront, List.append_assoc]
    exact Place.components_append front rest.toList
  · refine ⟨root.toList, .inl rfl, ?_⟩
    rw [String.toList_append]
    exact Place.components_append root.toList path.toList

theorem walk_join {root : String} (hroot : root ≠ "") {path : String}
    (hpath : FileTree.isAbsolute path = false) {base place : Place}
    (hbase : base.walk (Place.components root.toList) = .ok place) :
    base.walk (Place.components (join root path).toList) =
      place.walk (Place.components path.toList) := by
  obtain ⟨front, hfront, hcomponents⟩ := components_join hroot hpath
  have hreached : base.walk (Place.components front) = .ok place := by
    rcases hfront with rfl | hslash
    · exact hbase
    · exact Place.walk_of_slash (hslash ▸ hbase)
  rw [hcomponents, Place.walk_append, hreached]
  rfl

/-- A relative path below a root is followed from the place of the root. -/
theorem locate_join {files : FileTree} {root path : String} {place : Place}
    (hroot : files.rootPlace root = .ok place)
    (hrelative : FileTree.isAbsolute path = false) (hempty : join root path ≠ "")
    (hnul : '\x00' ∉ path.toList)
    (hfits : (join root path).utf8ByteSize ≤ Place.maxPath) :
    files.locate (join root path) = place.walk (Place.components path.toList) := by
  by_cases hblank : root = ""
  · have hjoin : join root path = path := by simp [join, hblank]
    rw [hjoin] at hempty hfits ⊢
    rw [FileTree.rootPlace, if_pos hblank] at hroot
    rw [FileTree.locate_eq hnul hempty hfits, FileTree.start, hrelative,
      if_neg Bool.false_ne_true, hroot]
    rfl
  · rw [FileTree.rootPlace, if_neg hblank] at hroot
    obtain ⟨hrootNul, _, hrootFits⟩ := FileTree.of_locate_eq_ok hroot
    obtain ⟨rest, hjoin, hrest⟩ := join_eq_append hblank hrelative
    have hjoinNul : '\x00' ∉ (join root path).toList := by
      rw [hjoin, String.toList_append]
      rcases hrest with ⟨rfl, _⟩ | rfl <;> simp [hrootNul, hnul]
    have hstart : files.start (join root path) = files.start root := by
      rw [hjoin, FileTree.start_append hblank]
    rw [FileTree.locate_eq hrootNul hblank hrootFits] at hroot
    rw [FileTree.locate_eq hjoinNul hempty hfits, hstart]
    cases hbase : files.start root with
    | error cause =>
      rw [hbase] at hroot
      cases hroot
    | ok base =>
      rw [hbase] at hroot
      exact walk_join hblank hrelative hroot

end Workspace

end Compliance
