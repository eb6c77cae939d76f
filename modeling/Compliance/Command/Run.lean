import Compliance.Assets
import Compliance.Command.Help
import Compliance.Config.Document
import Compliance.Log.Narration
import Compliance.Source.Workspace

/-!
Running the program: a command line and what can be learnt about the files make an exit code and the text of the two
output streams. Diagnostic events are told in front of what the gates print.
-/

namespace Compliance.Command

/-- Where the program runs. -/
structure Surroundings where
  /-- The absolute path of the working directory. -/
  directory : String
  files : FileAccess

/-- A program in a file tree runs in the working directory of the tree. It is told the absolute path of the
directory, which is taken to be in the tree and open to it. -/
def Surroundings.ofTree (files : FileTree) : Surroundings := ⟨files.directoryPath, files.access⟩

/-- The configuration that is built in. -/
def embeddedConfig : Except GateError Config :=
  (Config.ofText Assets.defaultConfigText).mapError .config

/-- The configuration in a file. -/
def loadConfig (files : FileAccess) (path : String) : Except GateError Config :=
  match files.read path with
  | .error cause => .error (.io path cause)
  | .ok text => (Config.ofText text).mapError .config

/-- An error with what was being done and what caused it. -/
def errorLine (context : Option String) (error : GateError) : String :=
  "error: " ++ (context.map (· ++ ": ")).getD "" ++ error.message ++
    match error with
    | .io _ cause => ": " ++ cause.message
    | _ => ""

/-- The configuration that a command line selects, or the line that tells why there is none. -/
def selectConfig (files : FileAccess) (path : Option String) : Except String Config :=
  match path with
  | none => embeddedConfig.mapError (errorLine none)
  | some path => (loadConfig files path).mapError (errorLine (some ("loading gate config " ++ path)))

/-- One line for a gate and its description. -/
def listLine (config : Config) (gate : Gate) : String := padded 18 gate.name ++ " " ++ gate.description config

/-- How many gates of a run passed, failed and were skipped, and the names of those that failed. Counters of 32 bits
hold the numbers as long as there are less than 2^32 gates. -/
structure Tally where
  passed : Nat := 0
  failures : List String := []
  skipped : Nat := 0
  deriving DecidableEq, Repr

namespace Tally

def failed (tally : Tally) : Nat := tally.failures.length

def add (tally : Tally) (gate : Gate) (outcome : Outcome) : Tally :=
  if outcome.isSkipped then { tally with skipped := tally.skipped + 1 }
  else if outcome.passed then { tally with passed := tally.passed + 1 }
  else { tally with failures := tally.failures ++ [gate.name] }

def ofOutcomes (outcomes : List (Gate × Outcome)) : Tally :=
  outcomes.foldl (fun tally (gate, outcome) => tally.add gate outcome) {}

/-- How many failures are named in the summary. -/
def shownFailures : Nat := 3

def textLines (tally : Tally) : List String :=
  ("gates: passed=" ++ toString tally.passed ++ " failed=" ++ toString tally.failed ++ " skipped=" ++
    toString tally.skipped) ::
  if tally.failures.isEmpty then []
  else ["gates: failures " ++ toString tally.failed ++ ": " ++
    Output.failureSummary tally.failures shownFailures]

def json (tally : Tally) : Json :=
  let count (value : Nat) : Json := .number (.integer value)
  .ofMembers
    [("summary",
      .ofMembers
        [("passed", count tally.passed), ("failed", count tally.failed), ("skipped", count tally.skipped)])]

def lines (tally : Tally) : Format → List String
  | .text => tally.textLines
  | .json => [tally.json.text]

end Tally

def skippedLine (gate : Gate) : Format → String
  | .text => gate.name ++ ": skipped (freeze check failed)"
  | .json =>
    (Json.ofMembers
      [("gate", .string gate.name), ("passed", .boolean false), ("skipped", .boolean true)]).text

/-- What is printed for one gate of a run. -/
def emitOutcome (format : Format) (gate : Gate) : Outcome → Emission
  | .skipped => { code := 0, stdout := Output.unlines [skippedLine gate format] }
  | .ran result => Output.emit gate.name result format

/-- What is printed for a run of every gate, and the summary behind it. -/
def emitAll (format : Format) (outcomes : List (Gate × Outcome)) : Emission :=
  let emissions := outcomes.map fun (gate, outcome) => emitOutcome format gate outcome
  let tally := Tally.ofOutcomes outcomes
  { code := if tally.failed = 0 then 0 else 1
    stdout := String.join (emissions.map Emission.stdout) ++ Output.unlines (tally.lines format)
    stderr := String.join (emissions.map Emission.stderr) }

/-- What a task prints apart from diagnostic events; a gate that is not configured is an error of the command. -/
def perform (source : Source) (config : Config) (format : Format) : Task → Emission
  | .list => { code := 0, stdout := Output.unlines (config.gates.map (listLine config)) }
  | .all => emitAll format (Pipeline.run source config)
  | .gate (.evidence family) =>
    match config.family family with
    | .error error => { code := 1, stderr := Output.unlines [errorLine none error] }
    | .ok _ => Output.emit (Gate.evidence family).name ((Gate.evidence family).run source config) format
  | .gate gate => Output.emit gate.name (gate.run source config) format

/-- The events of a task. -/
def narrate (source : Source) (config : Config) : Task → List Log.Event
  | .list => []
  | .all => Log.pipeline source config
  | .gate (.evidence family) =>
    match config.family family with
    | .error _ => []
    | .ok _ => Log.gate source config (.evidence family)
  | .gate gate => Log.gate source config gate

/-- The run of a command line that has been understood. -/
def run (surroundings : Surroundings) (line : Line) : Emission :=
  match selectConfig surroundings.files line.config with
  | .error message => { code := 1, stderr := Output.unlines [message] }
  | .ok config =>
    let root := line.root.getD surroundings.directory
    let source := (Workspace.mk root surroundings.files).source
    let emission := perform source config line.format line.task
    let events := .resolvedRoot root :: narrate source config line.task
    { emission with stderr := Output.unlines (Log.lines line.verbosity events) ++ emission.stderr }

/-- The run of the program with these arguments. -/
def execute (surroundings : Surroundings) (arguments : List String) : Emission :=
  match Line.ofArguments arguments with
  | .error stop => stop.emission
  | .ok line => run surroundings line

/-- The run of one gate by itself in the working directory, under a configuration that may not be there. -/
def standaloneUnder (files : FileAccess) (gate : Gate) : Except GateError Config → Emission
  | .error error => { code := 1, stderr := Output.unlines [error.message] }
  | .ok config => Output.emit gate.name (gate.run (Workspace.mk "." files).source config) .text

/-- The run of one gate by itself: in the working directory, with the built-in configuration and text output. -/
def standalone (files : FileAccess) (gate : Gate) : Emission := standaloneUnder files gate embeddedConfig

/-- The programs that run one gate, by name. -/
def standalonePrograms : List (String × Gate) :=
  [("check-contract-freeze", .freeze),
   ("check-impact-approvals", .approvals),
   ("validate-canonical-schema", .schema),
   ("validate-sprint5-controls", .evidence "sprint5"),
   ("validate-sprint6-controls", .evidence "sprint6")]

/-- The run of the program that has this name. -/
def program (name : String) (surroundings : Surroundings) (arguments : List String) : Emission :=
  match standalonePrograms.lookup name with
  | some gate => standalone surroundings.files gate
  | none => execute surroundings arguments

end Compliance.Command
