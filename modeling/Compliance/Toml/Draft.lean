import Compliance.Toml.Value

/-!
The tables of a document while it is read. A table can be written in pieces: by its header, by the headers of
tables below it, and by keys with several parts. What is open for which piece depends on how the table came
about, which is its `Form`; a name given twice, or a piece added to what is closed, makes the document invalid.
-/

namespace Compliance.Toml

/-- How a table came about. -/
inductive Form where
  /-- By its own header; the whole document and the tables between braces count as such. -/
  | stated
  /-- On the way to the header of a table below it. -/
  | implied
  /-- By a key with several parts. -/
  | dotted
  deriving DecidableEq, Repr

inductive Draft where
  /-- A finished value: nothing can be added to it. -/
  | closed (value : Toml)
  | table (form : Form) (span : Span) (members : List (Key × Draft))
  /-- An array written header by header, the last table first. -/
  | tables (span : Span) (rows : List (Span × List (Key × Draft)))
  deriving Repr

namespace Draft

abbrev Members := List (Key × Draft)

def find? (name : String) : Members → Option Draft
  | [] => none
  | (key, held) :: rest => if key.name = name then some held else find? name rest

/-- Puts a member at its place in the order of names, in the stead of one with its name. -/
def put (key : Key) (value : Draft) : Members → Members
  | [] => [(key, value)]
  | (other, held) :: rest =>
    if key.name < other.name then (key, value) :: (other, held) :: rest
    else if key.name = other.name then (key, value) :: rest
    else (other, held) :: put key value rest

/-- Changes a member that is there; its key stays. -/
def replace (name : String) (value : Draft) : Members → Members
  | [] => []
  | (key, held) :: rest =>
    if key.name = name then (key, value) :: rest else (key, held) :: replace name value rest

/-- Changes the table that a path leads to. Tables missing on the way are made, as part of a key if `dotted` and
as part of a header otherwise. The path leads into the last table of an array written header by header; a key
cannot lead into a table that has a header of its own, and a table that it leads into gets none any more. -/
def within (dotted : Bool) (change : Form → Members → Option Members) :
    List Key → Form → Members → Option Members
  | [], form, members => change form members
  | key :: path, _, members =>
    match find? key.name members with
    | none => do
      let form := if dotted then Form.dotted else Form.implied
      let inner ← within dotted change path form []
      return put key (.table form key.span inner) members
    | some (.table form span inner) =>
      if dotted ∧ form = .stated then none
      else do
        let form := if dotted then .dotted else form
        let inner ← within dotted change path form inner
        return replace key.name (.table form span inner) members
    | some (.tables span ((rowSpan, row) :: rows)) => do
      let row ← within dotted change path .stated row
      return replace key.name (.tables span ((rowSpan, row) :: rows)) members
    | some (.tables _ []) => none
    | some (.closed _) => none

/-- Gives a name its value. A key of one part belongs into a table that is not made of such keys, and a key of
several parts into one that is. -/
def assign (path : List Key) (key : Key) (value : Toml) : Form → Members → Option Members :=
  within true (fun form members =>
    if (form == .dotted) == path.isEmpty then none
    else match find? key.name members with
      | some _ => none
      | none => some (put key (.closed value) members)) path

/-- States a table by its header. One that is there already must only be implied. -/
def stateTable (span : Span) (path : List Key) (key : Key) : Form → Members → Option Members :=
  within false (fun _ members =>
    match find? key.name members with
    | none => some (put key (.table .stated span []) members)
    | some (.table .implied _ inner) => some (put key (.table .stated span inner) members)
    | some _ => none) path

/-- Begins another table of an array written header by header. -/
def stateRow (span : Span) (path : List Key) (key : Key) : Form → Members → Option Members :=
  within false (fun _ members =>
    match find? key.name members with
    | none => some (put key (.tables span [(span, [])]) members)
    | some (.tables first rows) => some (replace key.name (.tables first ((span, []) :: rows)) members)
    | some _ => none) path

mutual

/-- The value that a draft has become. -/
def value : Draft → Toml
  | .closed value => value
  | .table _ span members => .table span (memberValues members)
  | .tables span rows => .array span (rowValues rows).reverse

def memberValues : List (Key × Draft) → List (Key × Toml)
  | [] => []
  | (key, draft) :: rest => (key, value draft) :: memberValues rest

def rowValues : List (Span × List (Key × Draft)) → List Toml
  | [] => []
  | (span, members) :: rest => .table span (memberValues members) :: rowValues rest

end

end Draft

end Compliance.Toml
