import Compliance.Command.Line
import Compliance.Text.Controls

/-!
What the program says about itself: help, its version, and mistakes in its arguments.
-/

namespace Compliance.Command

def programName : String := "complygate"

def version : String := "0.3.0"

def summary : String := "Compliance gate checks for release and audit milestones"

def helpSummary : String := "Print this message or the help of the given subcommand(s)"

namespace Subcommand

def summary : Subcommand → String
  | freeze => "Check that every frozen contract artifact exists"
  | approvals => "Check finance/controls approvals in the governance decision ledger"
  | schema => "Check required envelope fields and event types of the canonical schema"
  | evidence => "Check control evidence documents for one family (e.g. sprint5)"
  | all => "Run every gate in pipeline order"
  | list => "List configured gates"

end Subcommand

/-- A text followed by blanks up to a width. -/
def padded (width : Nat) (text : String) : String :=
  text ++ String.ofList (List.replicate (width - text.length) ' ')

/-- Entries with what they mean, in two columns. -/
def columns (width : Nat) (entries : List (String × String)) : List String :=
  entries.map fun (entry, meaning) => "  " ++ padded width entry ++ "  " ++ meaning

/-- The options that every command has. -/
def commonOptions : List (String × String) :=
  [("    --root <ROOT>",
    "Repository root the artifact paths are resolved against (defaults to the current directory)"),
   ("    --config <CONFIG>", "Gate configuration file; replaces the embedded defaults"),
   ("    --format <FORMAT>", "Output format [default: text] [possible values: text, json]"),
   ("-v, --verbose...", "Diagnostic logging to stderr (-v info, -vv debug)"),
   ("-h, --help", "Print help")]

def optionLines (options : List (String × String)) : List String := "Options:" :: columns 21 options

def programHelp : List String :=
  [summary, "", "Usage: " ++ programName ++ " [OPTIONS] <COMMAND>", "", "Commands:"] ++
  columns 9
    (Subcommand.every.map (fun command => (command.name, command.summary)) ++ [("help", helpSummary)]) ++
  [""] ++ optionLines (commonOptions ++ [("-V, --version", "Print version")])

def subcommandHelp (command : Subcommand) : List String :=
  let usage := "Usage: " ++ programName ++ " " ++ command.name ++ " [OPTIONS]"
  let head := match command with
    | .evidence =>
      [usage ++ " <FAMILY>", "", "Arguments:", "  <FAMILY>  Evidence family id from the configuration"]
    | _ => [usage]
  [command.summary, ""] ++ head ++ [""] ++ optionLines commonOptions

def helpHelp : List String :=
  [helpSummary, "", "Usage: " ++ programName ++ " help [COMMAND]...", "", "Arguments:",
   "  [COMMAND]...  Print help for the subcommand(s)"]

def Topic.lines : Topic → List String
  | program => programHelp
  | command subcommand => subcommandHelp subcommand
  | help => helpHelp

/-- An argument given back in a message: between quotes and without controls. -/
def givenBack (argument : String) : String := "'" ++ Text.withoutControls argument ++ "'"

def UsageFault.message : UsageFault → String
  | noArguments => summary
  | missingSubcommand => "error: '" ++ programName ++ "' requires a subcommand but one was not provided"
  | unrecognizedSubcommand name => "error: unrecognized subcommand " ++ givenBack name
  | missingRequired => "error: the following required arguments were not provided:"
  | unexpectedArgument argument => "error: unexpected argument " ++ givenBack argument ++ " found"
  | unexpectedValue value flag =>
    "error: unexpected value " ++ givenBack value ++ " for '" ++ flag ++ "' found; no more were expected"
  | repeated option => "error: the argument '" ++ option.usage ++ "' cannot be used multiple times"
  | missingValue option => "error: a value is required for '" ++ option.usage ++ "' but none was supplied"
  | invalidFormat value => "error: invalid value " ++ givenBack value ++ " for '" ++ ValueOption.format.usage ++ "'"

/-- The lines for a mistake: the help when nothing was asked for, and a message otherwise. -/
def UsageFault.lines : UsageFault → List String
  | noArguments => programHelp
  | fault => [fault.message]

/-- What is printed when the arguments spell no command line. -/
def Stop.emission : Stop → Emission
  | help topic => { code := 0, stdout := Output.unlines topic.lines }
  | version => { code := 0, stdout := Output.unlines [programName ++ " " ++ Command.version] }
  | fault mistake => { code := 2, stderr := Output.unlines mistake.lines }

end Compliance.Command
