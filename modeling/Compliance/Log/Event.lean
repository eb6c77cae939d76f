import Compliance.Requirement
import Compliance.Text.Inspected

/-!
Diagnostic events and the lines that tell them. Events are told on request only, on the standard error and each on
one line, between what is printed anyway; they never change a verdict.
-/

namespace Compliance.Log

inductive Level where
  | info
  | debug
  | trace
  deriving DecidableEq, Repr

namespace Level

/-- How much is told when it is asked for so many times. -/
def ofVerbosity : Nat → Option Level
  | 0 => none
  | 1 => some info
  | 2 => some debug
  | _ => some trace

def name : Level → String
  | info => "INFO"
  | debug => "DEBUG"
  | trace => "TRACE"

/-- Whether events of the second level are told at the first. -/
def admits : Level → Level → Bool
  | info, info => true
  | info, _ => false
  | debug, trace => false
  | debug, _ => true
  | trace, _ => true

end Level

inductive Event where
  | resolvedRoot (root : String)
  | runningGate (gate : String)
  | skippedGate (gate : String)
  | loadedDocument (path : String) (bytes : Nat)
  | evaluatingExistence (path : String)
  | evaluatingRequirement (path : String) (requirement : Requirement)
  | foundViolation (gate : String) (violation : Violation) (message : String)
  | countedDecisions (count : Nat)
  | evaluatedGate (gate : String) (passed : Bool)
  /-- An evidence gate has come to its end, which it does only when it passes. -/
  | completedEvidence (gate : String)
  deriving DecidableEq

namespace Event

def level : Event → Level
  | resolvedRoot _ => .info
  | runningGate _ => .info
  | skippedGate _ => .info
  | evaluatedGate _ _ => .info
  | completedEvidence _ => .info
  | _ => .debug

end Event

/-- A value written for inspection: text between quotes. -/
def quote (text : String) : String := Text.inspected text

def listText (items : List String) : String := "[" ++ ", ".intercalate (items.map quote) ++ "]"

def setText (set : NameSet) : String := "\x7b" ++ ", ".intercalate (set.names.map quote) ++ "\x7d"

/-- A record with its fields. -/
def recordText (name : String) (fields : List (String × String)) : String :=
  name ++ " \x7b " ++ ", ".intercalate (fields.map fun (field, value) => field ++ ": " ++ value) ++ " \x7d"

def requirementText : Requirement → String
  | .existence path => recordText "Existence" [("path", quote path)]
  | .fieldCoverage path expected =>
    recordText "FieldCoverage" [("path", quote path), ("expected", setText expected)]
  | .enumEquality path pointer field expected =>
    recordText "EnumEquality"
      [("path", quote path), ("pointer", quote pointer), ("field", quote field),
       ("expected", setText expected)]
  | .snippetPresence path snippets =>
    recordText "SnippetPresence" [("path", quote path), ("snippets", listText snippets)]
  | .snippetAbsence path marker label =>
    recordText "SnippetAbsence"
      [("path", quote path), ("marker", quote marker), ("label", quote label)]

/-- Messages are free text, so the characters that could steer a terminal are written out in them. -/
def tamedChar (c : Char) : List Char :=
  if c = '\x1b' then "\\x1b".toList
  else if c = '\x07' then "\\x07".toList
  else if c = '\x08' then "\\x08".toList
  else if c = '\x0c' then "\\x0c".toList
  else if c = '\x7f' then "\\x7f".toList
  else if 0x80 ≤ c.toNat ∧ c.toNat ≤ 0x9f then Text.codePoint c
  else [c]

def tamed (text : String) : String := String.ofList (text.toList.flatMap tamedChar)

/-- A text between the start of a terminal style and its end. -/
def styled (style text : String) : String := "\x1b[" ++ style ++ "m" ++ text ++ "\x1b[0m"

/-- A named value behind a message: the name in italics, the sign dimmed. -/
def fieldText (name value : String) : String := styled "3" name ++ styled "2" "=" ++ value

namespace Level

/-- The terminal style of the colour of a level. -/
def colour : Level → String
  | info => "32"
  | debug => "34"
  | trace => "35"

/-- The width of the widest name. -/
def width : Nat := 5

/-- The name of the level in its colour, behind as many blanks as it is short of the widest. -/
def label (level : Level) : String :=
  let blanks := List.replicate (width - level.name.length) ' '
  styled level.colour (String.ofList blanks ++ level.name)

end Level

namespace Event

def words : Event → List String
  | resolvedRoot root => ["resolved repository root", fieldText "root" root]
  | runningGate gate => ["running gate", fieldText "gate" gate]
  | skippedGate gate => ["skipped: freeze prerequisite failed", fieldText "gate" gate]
  | loadedDocument path bytes =>
    ["loaded document", fieldText "path" path, fieldText "bytes" (toString bytes)]
  | evaluatingExistence path => ["evaluating existence", fieldText "path" path]
  | evaluatingRequirement path requirement =>
    ["evaluating requirement", fieldText "path" path,
     fieldText "requirement" (requirementText requirement)]
  | foundViolation gate violation message =>
    ["violation", fieldText "gate" gate, fieldText "kind" (quote violation.kind), tamed message]
  | countedDecisions count => ["ledger decisions", fieldText "count" (toString count)]
  | evaluatedGate gate passed =>
    ["gate evaluated", fieldText "gate" (quote gate), fieldText "passed" (toString passed)]
  | completedEvidence gate => ["gate evaluated", fieldText "gate" gate]

def line (event : Event) : String := event.level.label ++ " " ++ " ".intercalate event.words

end Event

/-- The lines told of events at a verbosity. -/
def lines (verbosity : Nat) (events : List Event) : List String :=
  match Level.ofVerbosity verbosity with
  | none => []
  | some level => (events.filter fun event => level.admits event.level).map Event.line

end Compliance.Log
