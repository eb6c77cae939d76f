import Compliance.Config.Fault
import Compliance.Json.Fault

/-!
What stops a gate before it can report. A finding, such as a file that is not there, is no error: it is a violation
in a report.
-/

namespace Compliance

/-- Why a document cannot be understood. -/
inductive MalformedReason where
  | notStructured
  | notJson (error : Json.ReadError)
  | notObject
  | decisionsNotList
  | decisionNotObject (index : Nat)
  /-- A reason given in words. -/
  | stated (reason : String)
  deriving DecidableEq

def MalformedReason.message : MalformedReason → String
  | notStructured => "expected a .json document"
  | notJson error => error.message
  | notObject => "expected a JSON object"
  | decisionsNotList => "'decisions' must be a list"
  | decisionNotObject index => "decision #" ++ toString index ++ " is not an object"
  | stated reason => reason

/-- Why a file cannot be read. -/
inductive IoCause where
  | notFound
  | notDirectory
  | isDirectory
  | nameTooLong
  | nulInName
  | notUtf8
  /-- A cause given in words. -/
  | stated (cause : String)
  deriving DecidableEq

def IoCause.message : IoCause → String
  | notFound => "No such file or directory (os error 2)"
  | notDirectory => "Not a directory (os error 20)"
  | isDirectory => "Is a directory (os error 21)"
  | nameTooLong => "File name too long (os error 36)"
  | nulInName => "file name contained an unexpected NUL byte"
  | notUtf8 => "stream did not contain valid UTF-8"
  | stated cause => cause

inductive GateError where
  | malformed (path : String) (reason : MalformedReason)
  | io (path : String) (cause : IoCause)
  | config (fault : Config.Fault)
  | unknownGate (name : String)
  deriving DecidableEq

namespace GateError

/-- The tag of an error in JSON output. -/
def kind : GateError → String
  | malformed _ _ => "malformed_document"
  | io _ _ => "io"
  | config _ => "config"
  | unknownGate _ => "unknown_gate"

def message : GateError → String
  | malformed path reason => "malformed " ++ path ++ ": " ++ reason.message
  | io path cause => "I/O error reading " ++ path ++ ": " ++ cause.message
  | config fault => "Configuration error: " ++ fault.message
  | unknownGate name => "Unknown gate: " ++ name

end GateError

end Compliance
