import Compliance.Command.Run

/-!
The program on a real disk. The paths that a run can ask for are known from its command line and its configuration,
so they are looked at first; the run itself is then a function of what was found.
-/

namespace Compliance

/-- The last name in a path. -/
def baseName (path : String) : String := (Place.components path.toList).getLast?.getD ""

/-- The number of an error, which may come with its sign turned around. -/
def errorNumber (code : UInt32) : UInt32 := if code < 0x80000000 then code else 0 - code

/-- The cause behind an error with a number. -/
def causeOfNumber (code : UInt32) (details : String) : IoCause :=
  match (errorNumber code).toNat with
  | 2 => .notFound
  | 20 => .notDirectory
  | 21 => .isDirectory
  | 36 => .nameTooLong
  | number => .stated (details ++ " (os error " ++ toString number ++ ")")

/-- The cause behind an error of the operating system. -/
def causeOf : IO.Error → IoCause
  | .noFileOrDirectory _ _ _ => .notFound
  | .inappropriateType _ code details => causeOfNumber code details
  | .invalidArgument _ code details => causeOfNumber code details
  | .permissionDenied _ code details => causeOfNumber code details
  | .otherError code details => causeOfNumber code details
  | error => .stated (toString error)

/-- What there is to learn about one path. -/
def probe (path : String) : IO (Except IoCause String) := do
  if path.toList.contains '\x00' then return .error .nulInName
  try
    let bytes ← IO.FS.readBinFile path
    match String.fromUTF8? bytes with
    | some text => return .ok text
    | none => return .error .notUtf8
  catch error => return .error (causeOf error)

/-- A path is there when it can be read, and also when what is wrong is only that it holds no text. -/
def isThere : Except IoCause String → Bool
  | .ok _ => true
  | .error .isDirectory => true
  | .error .notUtf8 => true
  | .error _ => false

/-- Access to paths that have been looked at. -/
def accessOf (found : List (String × Except IoCause String)) : FileAccess where
  has := fun path => ((found.lookup path).map isThere).getD false
  read := fun path => (found.lookup path).getD (.error .notFound)

def probeAll (paths : List String) : IO (List (String × Except IoCause String)) :=
  paths.mapM fun path => do return (path, ← probe path)

/-- Every path that the gates of a configuration can ask for. -/
def Config.paths (config : Config) : List String :=
  config.freeze.requiredPaths ++ [config.approvals.ledger, config.schema.path] ++
    config.evidence.flatMap fun entry => entry.documents.map EvidenceDocument.path

namespace Command

/-- What a run needs to know before it can ask for files: where its root is, and the file that holds its
configuration, if it is not the built-in one. -/
structure Needs where
  root : String
  config : Option String := none

def needs (name directory : String) (arguments : List String) : Needs :=
  match standalonePrograms.lookup name, Line.ofArguments arguments with
  | some _, _ => ⟨".", none⟩
  | none, .ok line => ⟨line.root.getD directory, line.config⟩
  | none, .error _ => ⟨".", none⟩

/-- The paths that the gates of a run can ask for, given those it needs to find its configuration. -/
def gatePaths (root : String) (config : Except String Config) : List String :=
  match config with
  | .error _ => []
  | .ok config => config.paths.map (Workspace.join root)

end Command

end Compliance

open Compliance in
def main (arguments : List String) : IO UInt32 := do
  let directory := toString (← IO.currentDir)
  let name := baseName (toString (← IO.appPath))
  let needs := Command.needs name directory arguments
  let configs ← probeAll needs.config.toList
  let config := Command.selectConfig (accessOf configs) needs.config
  let found ← probeAll (Command.gatePaths needs.root config)
  let emission := Command.program name ⟨directory, accessOf (configs ++ found)⟩ arguments
  (← IO.getStdout).putStr emission.stdout
  (← IO.getStderr).putStr emission.stderr
  return UInt32.ofNat emission.code
