import Compliance.Digest
import Compliance.Error
import Compliance.Json.Reader
import Compliance.Text.Search

/-!
Documents and where they come from. A document is a text at a path; a path that ends in `.json` makes it a
structured one, any other path leaves it free text. Gates see documents through a `Source` only, so what holds of a
gate holds over a disk and over an in-memory corpus alike.
-/

namespace Compliance

inductive DocumentKind where
  | structured
  | freeText
  deriving DecidableEq, Repr

/-- The ending that makes a document a structured one. -/
def structuredEnding : List Char := ['.', 'j', 's', 'o', 'n']

def DocumentKind.ofPath (path : String) : DocumentKind :=
  if structuredEnding.isSuffixOf path.toList then structured else freeText

structure Document where
  path : String
  content : String
  deriving DecidableEq, Repr

namespace Document

def kind (document : Document) : DocumentKind := .ofPath document.path

def contains (document : Document) (needle : String) : Bool :=
  Text.occursIn needle.toList document.content.toList

def sha256 (document : Document) : String := Digest.ofText document.content

/-- The content as JSON, whatever the kind of the document. -/
def json (document : Document) : Except GateError Json :=
  (Json.read document.content).mapError fun error => .malformed document.path (.notJson error)

/-- The content of a structured document as a JSON object. -/
def object (document : Document) : Except GateError Json :=
  match document.kind with
  | .freeText => .error (.malformed document.path .notStructured)
  | .structured =>
    match document.json with
    | .error error => .error error
    | .ok value =>
      if value.isObject then .ok value else .error (.malformed document.path .notObject)

theorem contains_iff {document : Document} {needle : String} :
    document.contains needle = true ↔ needle.toList <:+: document.content.toList :=
  Text.occursIn_iff

end Document

/-- Where documents come from. Reading a path gives the content that is there, or nothing when the artifact is
absent. -/
structure Source where
  has : String → Bool
  read : String → Except GateError (Option String)

namespace Source

/-- The document at a path, if there is one. -/
def load (source : Source) (path : String) : Except GateError (Option Document) :=
  (source.read path).map fun content => content.map fun text => ⟨path, text⟩

theorem path_of_load {source : Source} {path : String} {document : Document}
    (h : source.load path = .ok (some document)) : document.path = path := by
  unfold load at h
  cases hr : source.read path with
  | error error => rw [hr] at h; simp [Except.map] at h
  | ok content =>
    rw [hr] at h
    cases content with
    | none => simp [Except.map] at h
    | some text => simp only [Except.map, Option.map_some, Except.ok.injEq, Option.some.injEq] at h; rw [← h]

end Source

end Compliance
