import Compliance.Config.Document
import Compliance.Proofs.NamedValues
import Compliance.Proofs.StructuredDocuments
import Mathlib.Data.List.Forall2

/-!
Which TOML values spell a value, and what decoders do with them. A record is
spelled by a table with known keys in any order, where a key may be left out if
there is a default and that is meant. A decoder that reads a value out of
everything that spells it can still refuse a spelling to which something is added.
-/

namespace Compliance.Toml

variable {α β : Type}

abbrev Spelling (α : Type) := α → Toml → Prop

inductive SpellsText : Spelling String
  | string (span : Span) (text : String) : SpellsText text (.string span text)

/-- A list is spelled item by item. -/
inductive SpellsList (spells : Spelling α) : Spelling (List α)
  | array {found : List α} {values : List Toml} (span : Span)
    (hitems : List.Forall₂ spells found values) :
    SpellsList spells found (.array span values)

/-- A set is spelled by a list of its names, in any order and with any
repetitions. -/
inductive SpellsSet : Spelling NameSet
  | list {found : NameSet} {names : List String} {value : Toml}
    (hlist : SpellsList SpellsText names value)
    (hnames : ∀ name, name ∈ found ↔ name ∈ names) : SpellsSet found value

/-- Something optional is spelled only if it is there. -/
inductive SpellsOption (spells : Spelling α) : Spelling (Option α)
  | some {found : α} {value : Toml} (hspells : spells found value) :
    SpellsOption spells (some found) value

/-- The values in a table under their names. -/
def valuesOf (members : List (Key × Toml)) : List (String × Toml) :=
  members.map fun (key, value) => (key.name, value)

/-- The keys of a table are distinct and among the known ones. -/
structure HasKeys (known : List String) (members : List (Key × Toml)) : Prop where
  distinct : ((valuesOf members).map Prod.fst).Nodup
  known : ∀ member ∈ members, member.1.name ∈ known

/-- What a table says under a name. If there is nothing, the default is meant. -/
def Gives (members : List (Key × Toml)) (name : String) (default? : Option α)
    (spells : Spelling α) (found : α) : Prop :=
  match (valuesOf members).lookup name with
  | some value => spells found value
  | none => default? = some found

theorem gives_iff {members : List (Key × Toml)} {name : String} {default? : Option α}
    {spells : Spelling α} {found : α} :
    Gives members name default? spells found ↔
      (∃ value, (valuesOf members).lookup name = some value ∧ spells found value) ∨
        (valuesOf members).lookup name = none ∧ default? = some found := by
  unfold Gives
  cases (valuesOf members).lookup name <;> simp

theorem HasKeys.lookup_of_mem {known : List String} {members : List (Key × Toml)}
    {key : Key} {value : Toml} (h : HasKeys known members)
    (hmem : (key, value) ∈ members) :
    (valuesOf members).lookup key.name = some value :=
  Compliance.lookup_of_mem h.distinct (List.mem_map_of_mem hmem)

theorem Gives.of_mem {known : List String} {members : List (Key × Toml)} {key : Key}
    {value : Toml} {default? : Option α} {spells : Spelling α} {found : α}
    (h : Gives members key.name default? spells found) (hkeys : HasKeys known members)
    (hmem : (key, value) ∈ members) : spells found value := by
  rw [Gives, hkeys.lookup_of_mem hmem] at h
  exact h

/-! ## One way to spell values

What is written here stands in no document, so the spans say nothing. -/

def nowhere : Span := ⟨0, 0⟩

def ofText (text : String) : Toml := .string nowhere text

def ofList (spell : α → Toml) (items : List α) : Toml :=
  .array nowhere (items.map spell)

def ofMembers (members : List (String × Toml)) : Toml :=
  .table nowhere (members.map fun (name, value) => (⟨name, nowhere⟩, value))

theorem spellsText_ofText (text : String) : SpellsText text (ofText text) :=
  .string nowhere text

theorem spellsList_ofList {spells : Spelling α} {spell : α → Toml}
    (h : ∀ item, spells item (spell item)) (items : List α) :
    SpellsList spells items (ofList spell items) := by
  refine .array _ ?_
  rw [List.forall₂_map_right_iff, List.forall₂_same]
  exact fun item _ => h item

theorem spellsSet_ofList (set : NameSet) : SpellsSet set (ofList ofText set.names) :=
  .list (spellsList_ofList spellsText_ofText _) fun _ => NameSet.mem_def

/-! ## Decoders that read what is spelled -/

/-- A decoder reads a value out of everything that spells it. -/
def Decodes (decode : Decoder α) (spells : Spelling α) : Prop :=
  ∀ found value, spells found value → decode value = .ok found

theorem decodes_text : Decodes Decoder.text SpellsText := by
  rintro found value ⟨span, text⟩
  rfl

theorem Decodes.mapM {decode : Decoder α} {spells : Spelling α}
    (h : Decodes decode spells) {found : List α} {values : List Toml}
    (hitems : List.Forall₂ spells found values) : values.mapM decode = .ok found := by
  induction hitems with
  | nil => rfl
  | cons hitem _ ih =>
    rw [List.mapM_cons, h _ _ hitem, ih]
    rfl

theorem Decodes.list {decode : Decoder α} {spells : Spelling α}
    (h : Decodes decode spells) :
    Decodes (Decoder.listOf decode) (SpellsList spells) := by
  rintro found value ⟨span, hitems⟩
  exact h.mapM hitems

theorem decodes_set : Decodes NameSet.decode SpellsSet := by
  intro found value hspells
  cases hspells with
  | @list _ names _ hlist hnames =>
    have hset : NameSet.ofList names = found := by
      rw [NameSet.eq_iff]
      intro name
      rw [NameSet.mem_ofList, hnames]
    rw [NameSet.decode, textList, decodes_text.list _ _ hlist, Except.map, hset]

theorem Decodes.option {decode : Decoder α} {spells : Spelling α}
    (h : Decodes decode spells) :
    Decodes (fun value => (decode value).map some) (SpellsOption spells) := by
  rintro found value ⟨hspells⟩
  simp [h _ _ hspells, Except.map]

/-! ## Records -/

/-- Every member of a table passes the test of the field that it names. -/
def RecordType.Accepts (type : RecordType) (members : List (Key × Toml)) : Prop :=
  ∀ member ∈ members, ∃ field,
    type.fields.find? (·.name == member.1.name) = some field ∧
      field.check member.2 = .ok ()

namespace RecordType

variable {type : RecordType} {front members : List (Key × Toml)}

theorem checkMembers_append (h : type.Accepts front) :
    type.checkMembers (front ++ members) = type.checkMembers members := by
  induction front with
  | nil => rfl
  | cons member rest ih =>
    obtain ⟨hmember, hrest⟩ := List.forall_mem_cons.mp h
    obtain ⟨field, hfield, hcheck⟩ := hmember
    rw [List.cons_append, checkMembers, hfield]
    change (field.check member.2 >>= fun _ => _) = _
    rw [hcheck]
    exact ih hrest

/-- A table without faults, seen as a record. -/
def tableRecord (span : Span) (members : List (Key × Toml)) : Record :=
  ⟨valuesOf members, fun name => ⟨span, .missingField name⟩⟩

theorem open?_of_accepts (span : Span) (h : type.Accepts members) :
    type.open? (.table span members) = .ok (tableRecord span members) := by
  have hall : type.checkMembers (members ++ []) = .ok () := checkMembers_append h
  rw [List.append_nil] at hall
  simp only [open?, hall]
  rfl

/-- The first member that fails its test is blamed. -/
theorem open?_of_fault (span : Span) {member : Key × Toml} {fault : ShapeFault}
    (hfront : type.Accepts front)
    (h : type.checkMembers (member :: members) = .error fault) :
    type.open? (.table span (front ++ member :: members)) = .error fault := by
  simp only [open?, checkMembers_append hfront, h]
  rfl

theorem required_tableRecord {span : Span} {name : String} {decode : Decoder α}
    {spells : Spelling α} {found : α} (hdecodes : Decodes decode spells)
    (h : Gives members name none spells found) :
    (tableRecord span members).required name decode = .ok found := by
  rcases gives_iff.mp h with ⟨value, hvalue, hspells⟩ | ⟨_, hdefault⟩
  · simp [Record.required, tableRecord, hvalue, hdecodes _ _ hspells]
  · cases hdefault

theorem optional_tableRecord {span : Span} {name : String} {default : α}
    {decode : Decoder α} {spells : Spelling α} {found : α}
    (hdecodes : Decodes decode spells)
    (h : Gives members name (some default) spells found) :
    (tableRecord span members).optional name default decode = .ok found := by
  rcases gives_iff.mp h with ⟨value, hvalue, hspells⟩ | ⟨hnone, hdefault⟩
  · simp [Record.optional, tableRecord, hvalue, hdecodes _ _ hspells]
  · cases hdefault
    simp [Record.optional, tableRecord, hnone]

end RecordType

/-- What stands in a table under the name of a field passes its test. -/
def Field.Passes (field : Field) (members : List (Key × Toml)) : Prop :=
  ∀ key value, (key, value) ∈ members → key.name = field.name →
    field.check value = .ok ()

theorem Field.passes_of_gives {known : List String} {members : List (Key × Toml)}
    {name : String} {default? : Option α} {decode : Decoder α} {spells : Spelling α}
    {found : α} (hdecodes : Decodes decode spells) (hkeys : HasKeys known members)
    (h : Gives members name default? spells found) :
    (Field.of name decode).Passes members := by
  rintro key value hmem rfl
  simp [Field.of, hdecodes _ _ (h.of_mem hkeys hmem), Except.map]

theorem RecordType.accepts_of_passes {type : RecordType} {members : List (Key × Toml)}
    (hkeys : HasKeys type.names members)
    (h : ∀ field ∈ type.fields, field.Passes members) : type.Accepts members := by
  rintro ⟨key, value⟩ hmem
  obtain ⟨declared, hdeclared, hname⟩ := List.mem_map.mp (hkeys.known _ hmem)
  cases hfield : type.fields.find? (·.name == key.name) with
  | none =>
    have hnone := List.find?_eq_none.mp hfield declared hdeclared
    simp [hname] at hnone
  | some field =>
    have hsame : field.name = key.name := by simpa using List.find?_some hfield
    have hmember := List.mem_of_find?_eq_some hfield
    exact ⟨field, rfl, h field hmember key value hmem hsame.symm⟩

/-- A decoder reads the records of a type: it reads all that spells one, and it has
no use for a value that is no record of the type. -/
structure RecordType.Reads (type : RecordType) (decode : Decoder α)
    (spells : Spelling α) : Prop where
  decodes : Decodes decode spells
  accepts : ∀ found value, spells found value → ∃ span members,
    value = .table span members ∧ type.Accepts members
  fails : ∀ value fault, type.open? value = .error fault → decode value = .error fault

theorem RecordType.reads_of_open {type : RecordType} {decode : Decoder α}
    {spells : Spelling α} {make : Record → Except ShapeFault α}
    (hdecode : ∀ value, decode value = type.open? value >>= make)
    (h : ∀ found value, spells found value → ∃ span members,
      value = .table span members ∧ HasKeys type.names members ∧
        (∀ field ∈ type.fields, field.Passes members) ∧
        make (tableRecord span members) = .ok found) : type.Reads decode spells where
  decodes := by
    intro found value hspells
    obtain ⟨span, members, rfl, hkeys, hfields, hmake⟩ := h found value hspells
    rw [hdecode, open?_of_accepts span (accepts_of_passes hkeys hfields)]
    exact hmake
  accepts := by
    intro found value hspells
    obtain ⟨span, members, rfl, hkeys, hfields, _⟩ := h found value hspells
    exact ⟨span, members, rfl, accepts_of_passes hkeys hfields⟩
  fails := by
    intro value fault hfault
    rw [hdecode, hfault]
    rfl

/-! ## Spellings with something added -/

/-- A member under an unknown name is added to a table. -/
inductive Gains (known : List String) (name : String) : Toml → Toml → Prop
  | member {span : Span} {front behind : List (Key × Toml)} {key : Key} {value : Toml}
    (hkey : key.name = name) (hname : name ∉ known) :
    Gains known name (.table span (front ++ behind))
      (.table span (front ++ (key, value) :: behind))

/-- The value under a name changes. -/
inductive Under (name : String) (change : Toml → Toml → Prop) : Toml → Toml → Prop
  | member {span : Span} {front behind : List (Key × Toml)} {key : Key}
    {before after : Toml} (hkey : key.name = name) (hchange : change before after) :
    Under name change (.table span (front ++ (key, before) :: behind))
      (.table span (front ++ (key, after) :: behind))

/-- One item of an array changes. -/
inductive InItem (change : Toml → Toml → Prop) : Toml → Toml → Prop
  | item {span : Span} {front behind : List Toml} {before after : Toml}
    (hchange : change before after) :
    InItem change (.array span (front ++ before :: behind))
      (.array span (front ++ after :: behind))

/-- Whatever spells a value is refused for this reason once it has changed so. -/
def Refuses (decode : Decoder α) (spells : Spelling α) (change : Toml → Toml → Prop)
    (misfit : Misfit) : Prop :=
  ∀ found before after, spells found before → change before after →
    ∃ span, decode after = .error ⟨span, misfit⟩

section

variable {decode : Decoder α} {spells : Spelling α} {change : Toml → Toml → Prop}
  {misfit : Misfit}

/-- The first item that is refused is blamed. -/
theorem mapM_eq_error {front behind : List Toml} {item : Toml} {fault : ShapeFault}
    (hfront : ∀ value ∈ front, ∃ found, decode value = .ok found)
    (h : decode item = .error fault) :
    (front ++ item :: behind).mapM decode = .error fault := by
  induction front with
  | nil =>
    rw [List.nil_append, List.mapM_cons, h]
    rfl
  | cons value rest ih =>
    obtain ⟨⟨found, hfound⟩, hrest⟩ := List.forall_mem_cons.mp hfront
    rw [List.cons_append, List.mapM_cons, hfound, ih hrest]
    rfl

theorem exists_spelled_of_mem {found : List α} {values : List Toml} {value : Toml}
    (hitems : List.Forall₂ spells found values) (h : value ∈ values) :
    ∃ item, spells item value := by
  induction hitems with
  | nil => cases h
  | cons hitem _ ih =>
    rcases List.mem_cons.mp h with rfl | hrest
    · exact ⟨_, hitem⟩
    · exact ih hrest

theorem Refuses.inItem (hdecodes : Decodes decode spells)
    (h : Refuses decode spells change misfit) :
    Refuses (Decoder.listOf decode) (SpellsList spells) (InItem change) misfit := by
  intro found before after hspells hchange
  cases hchange with
  | @item span front behind old new hitem =>
    cases hspells with
    | array _ hitems =>
      obtain ⟨_, hold⟩ :=
        exists_spelled_of_mem hitems (List.mem_append_right front List.mem_cons_self)
      obtain ⟨place, hnew⟩ := h _ old new hold hitem
      refine ⟨place, mapM_eq_error ?_ hnew⟩
      intro value hvalue
      obtain ⟨item, hitem⟩ :=
        exists_spelled_of_mem hitems (List.mem_append_left _ hvalue)
      exact ⟨item, hdecodes _ _ hitem⟩

theorem Refuses.option (h : Refuses decode spells change misfit) :
    Refuses (fun value => (decode value).map some) (SpellsOption spells) change
      misfit := by
  rintro found before after ⟨hspells⟩ hchange
  obtain ⟨span, hfault⟩ := h _ _ _ hspells hchange
  exact ⟨span, by simp [hfault, Except.map]⟩

end

namespace RecordType.Reads

variable {type : RecordType} {decode : Decoder α} {spells : Spelling α}

theorem refuses_gain (h : type.Reads decode spells) (name : String) :
    Refuses decode spells (Gains type.names name) (.unknownField name type.names) := by
  intro found before after hspells hchange
  obtain ⟨_, _, hbefore, haccepts⟩ := h.accepts found before hspells
  cases hchange with
  | @member span front behind key value hkey hname =>
    cases hbefore
    subst hkey
    refine ⟨key.span, h.fails _ _ (open?_of_fault _ ?_ ?_)⟩
    · intro member hmember
      exact haccepts member (List.mem_append_left _ hmember)
    · have hnone : type.fields.find? (·.name == key.name) = none := by
        rw [List.find?_eq_none]
        intro field hfield hsame
        have hfound : field.name = key.name := by simpa using hsame
        exact hname (hfound ▸ List.mem_map_of_mem hfield)
      simp only [checkMembers, hnone]

theorem refuses_under {inner : Decoder β} {innerSpells : Spelling β} {field : String}
    {change : Toml → Toml → Prop} {misfit : Misfit} (h : type.Reads decode spells)
    (hfield : type.fields.find? (·.name == field) = some (.of field inner))
    (hgives : ∀ found span members, spells found (.table span members) →
      ∃ known default? part, HasKeys known members ∧
        Gives members field default? innerSpells part)
    (hinner : Refuses inner innerSpells change misfit) :
    Refuses decode spells (Under field change) misfit := by
  intro found before after hspells hchange
  obtain ⟨_, _, hbefore, haccepts⟩ := h.accepts found before hspells
  cases hchange with
  | @member span front behind key old new hkey hchange =>
    cases hbefore
    subst hkey
    obtain ⟨_, _, part, hkeys, hpart⟩ := hgives found _ _ hspells
    have hold : innerSpells part old :=
      hpart.of_mem hkeys (List.mem_append_right front List.mem_cons_self)
    obtain ⟨place, hfault⟩ := hinner part old new hold hchange
    refine ⟨place, h.fails _ _ (open?_of_fault _ ?_ ?_)⟩
    · intro member hmember
      exact haccepts member (List.mem_append_left _ hmember)
    · simp [checkMembers, hfield, Field.of, hfault, Except.map, bind, Except.bind]

end RecordType.Reads

end Compliance.Toml
