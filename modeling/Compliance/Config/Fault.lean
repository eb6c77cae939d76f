import Compliance.Toml.Shape

/-!
Why a configuration cannot be used: its text is no TOML, its values have the wrong shape, or it breaks one of the
rules for its values. The rules want every list to have entries; what an entry is made of is left open, so a snippet
may well be empty.
-/

namespace Compliance.Config

inductive Fault where
  /-- The text is not TOML. -/
  | unreadable
  | shape (document : String) (fault : Toml.ShapeFault)
  | noRequiredPaths
  | noLedger
  | noRequiredFields
  | noEventTypes
  | notPointer (text : String)
  | repeatedFamily (family : String)
  | noDocuments (family : String)
  | noSnippets (family path : String)
  /-- A reason given in words. -/
  | stated (reason : String)
  deriving DecidableEq

def Fault.message : Fault → String
  | unreadable => "TOML parse error"
  | shape document fault => fault.message document
  | noRequiredPaths => "freeze.required_paths must not be empty"
  | noLedger => "approvals.ledger must be set"
  | noRequiredFields => "schema.required_fields must not be empty"
  | noEventTypes => "schema.event_types must not be empty"
  | notPointer text => "schema.enum_pointer must be a JSON pointer, got '" ++ text ++ "'"
  | repeatedFamily family => "duplicate evidence family '" ++ family ++ "'"
  | noDocuments family => "evidence family '" ++ family ++ "' has no documents"
  | noSnippets family path => "evidence family '" ++ family ++ "': " ++ path ++ " has no snippets"
  | stated reason => reason

end Compliance.Config
