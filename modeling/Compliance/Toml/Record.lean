import Compliance.Toml.Shape

/-!
Reading records out of TOML values. A record is a table with known fields, or an array of its fields in the order
in which they are declared. Of several faults the first one counts: the fields are looked at in the order of the
table, a name that is not known and a value that does not fit alike, and what is missing is noticed last, in the
order of declaration.
-/

namespace Compliance.Toml

abbrev Decoder (α : Type) := Toml → Except ShapeFault α

namespace Decoder

def text : Decoder String
  | .string _ text => .ok text
  | value => .error (.of value "a string")

def listOf (item : Decoder α) : Decoder (List α)
  | .array _ items => items.mapM item
  | value => .error (.of value "a sequence")

end Decoder

/-- A field and the test that its value has to pass. -/
structure Field where
  name : String
  check : Decoder Unit

def Field.of (name : String) (decode : Decoder α) : Field :=
  ⟨name, fun value => (decode value).map fun _ => ()⟩

structure RecordType where
  name : String
  fields : List Field

/-- The name under which a date hides its text from a record. -/
def datetimeField : String := "$__toml_private_datetime"

/-- The fields of a record that are there, and what to say of one that is not. -/
structure Record where
  values : List (String × Toml)
  missing : String → ShapeFault

namespace RecordType

def names (type : RecordType) : List String := type.fields.map Field.name

/-- The members of a table that pass the tests of the fields they name. -/
def checkMembers (type : RecordType) : List (Key × Toml) → Except ShapeFault Unit
  | [] => .ok ()
  | (key, value) :: rest =>
    match type.fields.find? (·.name == key.name) with
    | none => .error ⟨key.span, .unknownField key.name type.names⟩
    | some field => do
      field.check value
      type.checkMembers rest

def checkItems : List (Field × Toml) → Except ShapeFault Unit
  | [] => .ok ()
  | (field, value) :: rest => do
    field.check value
    checkItems rest

/-- A value seen as a record of this type; every field that is there has passed its test. -/
def open? (type : RecordType) (value : Toml) : Except ShapeFault Record :=
  match value with
  | .table span members => do
    type.checkMembers members
    return ⟨members.map fun (key, value) => (key.name, value), fun name => ⟨span, .missingField name⟩⟩
  | .array span items => do
    let fields := type.fields.zip items
    checkItems fields
    return ⟨fields.map fun (field, value) => (field.name, value),
      fun name => ⟨span, .tooShort (type.names.idxOf name) type.name type.names.length⟩⟩
  | .scalar span .datetime => .error ⟨span, .unknownField datetimeField type.names⟩
  | value => .error (.of value ("struct " ++ type.name))

end RecordType

namespace Record

def required (record : Record) (name : String) (decode : Decoder α) : Except ShapeFault α :=
  match record.values.lookup name with
  | some value => decode value
  | none => .error (record.missing name)

def optional (record : Record) (name : String) (default : α) (decode : Decoder α) :
    Except ShapeFault α :=
  match record.values.lookup name with
  | some value => decode value
  | none => .ok default

end Record

end Compliance.Toml
