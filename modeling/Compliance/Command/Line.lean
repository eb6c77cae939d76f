import Compliance.Output

/-!
Command lines. Options may stand in front of the subcommand and behind it; an option given behind it counts more.
The value of an option that stands by itself is taken as it comes and looked at only when the next option is met or
the arguments end, so of two mistakes it is not always the first that is reported.
-/

namespace Compliance.Command

/-- The options that take a value. -/
inductive ValueOption where
  | root
  | config
  | format
  deriving DecidableEq, Repr

namespace ValueOption

def ofName? (name : String) : Option ValueOption :=
  if name = "root" then some root
  else if name = "config" then some config
  else if name = "format" then some format
  else none

/-- An option with the name of its value. -/
def usage : ValueOption → String
  | root => "--root <ROOT>"
  | config => "--config <CONFIG>"
  | format => "--format <FORMAT>"

end ValueOption

inductive Subcommand where
  | freeze
  | approvals
  | schema
  | evidence
  | all
  | list
  deriving DecidableEq, Repr

namespace Subcommand

def every : List Subcommand := [freeze, approvals, schema, evidence, all, list]

def name : Subcommand → String
  | freeze => "freeze"
  | approvals => "approvals"
  | schema => "schema"
  | evidence => "evidence"
  | all => "all"
  | list => "list"

def ofName? (name : String) : Option Subcommand := every.find? fun command => command.name == name

end Subcommand

/-- What help is asked about. -/
inductive Topic where
  | program
  | command (subcommand : Subcommand)
  | help
  deriving DecidableEq, Repr

/-- Why the arguments are no command line. -/
inductive UsageFault where
  | noArguments
  | missingSubcommand
  | unrecognizedSubcommand (name : String)
  | missingRequired
  | unexpectedArgument (argument : String)
  | unexpectedValue (value flag : String)
  | repeated (option : ValueOption)
  | missingValue (option : ValueOption)
  | invalidFormat (value : String)
  deriving DecidableEq, Repr

/-- Why reading the arguments ends before a command line is complete. -/
inductive Stop where
  | help (topic : Topic)
  | version
  | fault (fault : UsageFault)
  deriving DecidableEq, Repr

/-- An argument that has been taken but not looked at. -/
inductive Pending where
  | option (option : ValueOption) (value : Option String)
  | family (value : String)
  deriving DecidableEq, Repr

/-- What has been given on one side of the subcommand. -/
structure Given where
  root : Option String := none
  config : Option String := none
  format : Option Format := none
  verbosity : Option Nat := none
  family : Option String := none
  pending : Option Pending := none
  deriving DecidableEq, Repr

namespace Given

/-- Whether an option waits for its value. -/
def isWaiting (given : Given) : Bool :=
  match given.pending with
  | some (.option _ none) => true
  | _ => false

def has (given : Given) : ValueOption → Bool
  | .root => given.root.isSome
  | .config => given.config.isSome
  | .format => given.format.isSome

/-- Takes the value of an option in. -/
def store (given : Given) (option : ValueOption) (value : String) : Except Stop Given :=
  if given.has option then .error (.fault (.repeated option))
  else if value = "" then .error (.fault (.missingValue option))
  else match option with
    | .root => .ok { given with root := some value }
    | .config => .ok { given with config := some value }
    | .format =>
      if value = "text" then .ok { given with format := some .text }
      else if value = "json" then .ok { given with format := some .json }
      else .error (.fault (.invalidFormat value))

/-- Looks at what is pending. -/
def settle (given : Given) : Except Stop Given :=
  let settled := { given with pending := none }
  match given.pending with
  | none => .ok settled
  | some (.option option none) => .error (.fault (.missingValue option))
  | some (.option option (some value)) => settled.store option value
  | some (.family value) => .ok { settled with family := some value }

/-- The most that the verbosity goes up to. -/
def maxVerbosity : Nat := 255

def moreVerbose (given : Given) : Given :=
  { given with verbosity := some (min maxVerbosity (given.verbosity.getD 0 + 1)) }

def isEmpty (given : Given) : Bool :=
  given.root.isNone && given.config.isNone && given.format.isNone && given.verbosity.isNone

end Given

/-- Which side of the subcommand arguments stand on. -/
inductive Scope where
  | top
  | below (subcommand : Subcommand)
  deriving DecidableEq, Repr

def Scope.topic : Scope → Topic
  | top => .program
  | below subcommand => .command subcommand

/-- An option written with two dashes, behind them, with the value that is attached to it. -/
def longOption (scope : Scope) (given : Given) (name : String) (attached : Option String) :
    Except Stop Given :=
  match ValueOption.ofName? name with
  | some option => do
    let given ← given.settle
    match attached with
    | some value => given.store option value
    | none => return { given with pending := some (.option option none) }
  | none =>
    let flag (shown : String) (act : Given → Except Stop Given) : Except Stop Given :=
      match attached with
      | some value => .error (.fault (.unexpectedValue value shown))
      | none => given.settle.bind act
    if name = "verbose" then flag "--verbose..." fun given => .ok given.moreVerbose
    else if name = "help" then flag "--help" fun _ => .error (.help scope.topic)
    else if name = "version" ∧ scope = .top then flag "--version" fun _ => .error .version
    else .error (.fault (.unexpectedArgument ("--" ++ name)))

/-- Options written with one dash, behind it, each a single letter. -/
def shortOptions (scope : Scope) (given : Given) : List Char → Except Stop Given
  | [] => .ok given
  | c :: rest =>
    if c = 'v' then do shortOptions scope (← given.settle).moreVerbose rest
    else if c = 'h' then given.settle.bind fun _ => .error (.help scope.topic)
    else if c = 'V' ∧ scope = .top then given.settle.bind fun _ => .error .version
    else .error (.fault (.unexpectedArgument (String.ofList ['-', c])))

/-- The name of a long option, and the value attached to it with an equals sign. -/
def splitAttached (text : List Char) : String × Option String :=
  let (name, rest) := text.span (· ≠ '=')
  (String.ofList name, match rest with
    | [] => none
    | _ :: value => some (String.ofList value))

/-- An argument that is neither an option nor the value of one. -/
def word (scope : Scope) (given : Given) (trailing : Bool) (argument : String) : Except Stop Given :=
  match scope with
  | .top =>
    if trailing ∧ (argument = "help" ∨ (Subcommand.ofName? argument).isSome) then
      .error (.fault (.unexpectedArgument argument))
    else .error (.fault (.unrecognizedSubcommand argument))
  | .below subcommand =>
    let taken := given.family.isSome || (match given.pending with
      | some (.family _) => true
      | _ => false)
    if subcommand = .evidence ∧ !taken then do
      return { ← given.settle with pending := some (.family argument) }
    else .error (.fault (.unexpectedArgument argument))

/-- An argument in front of a double dash that names no subcommand. -/
def argument (scope : Scope) (given : Given) (argument : String) : Except Stop Given :=
  match argument.toList with
  | '-' :: '-' :: text =>
    let (name, attached) := splitAttached text
    longOption scope given name attached
  | '-' :: c :: rest => shortOptions scope given (c :: rest)
  | _ =>
    match given.pending with
    | some (.option option none) => .ok { given with pending := some (.option option (some argument)) }
    | _ => word scope given false argument

/-- The words behind the help subcommand say what help is asked about. -/
def helpTopic (topic : Topic) : List String → Stop
  | [] => .help topic
  | name :: rest =>
    match topic with
    | .program =>
      if name = "help" then helpTopic .help rest
      else match Subcommand.ofName? name with
        | some subcommand => helpTopic (.command subcommand) rest
        | none => .fault (.unrecognizedSubcommand name)
    | _ => .fault (.unrecognizedSubcommand name)

/-- The arguments behind a subcommand. -/
def below (subcommand : Subcommand) (given : Given) (trailing : Bool) :
    List String → Except Stop Given
  | [] => do
    let given ← given.settle
    if subcommand = .evidence ∧ given.family.isNone then .error (.fault .missingRequired)
    else return given
  | next :: rest =>
    if trailing then do below subcommand (← word (.below subcommand) given true next) true rest
    else if next = "--" then below subcommand given true rest
    else do below subcommand (← argument (.below subcommand) given next) false rest

/-- The arguments up to the subcommand, the subcommand, and what is given behind it. -/
def top (given : Given) (trailing : Bool) : List String → Except Stop (Given × Subcommand × Given)
  | [] => do
    let given ← given.settle
    .error (.fault (if given.isEmpty then .noArguments else .missingSubcommand))
  | next :: rest =>
    if trailing then do top (← word .top given true next) true rest
    else if next = "help" ∧ !given.isWaiting then .error (helpTopic .program rest)
    else
      match (if given.isWaiting then none else Subcommand.ofName? next) with
      | some subcommand => do
        let behind ← below subcommand {} false rest
        return (← given.settle, subcommand, behind)
      | none =>
        if next = "--" then top given true rest
        else do top (← argument .top given next) false rest

/-- What the program is to do. -/
inductive Task where
  | gate (gate : Gate)
  | all
  | list
  deriving DecidableEq, Repr

/-- A command line that has been understood. -/
structure Line where
  root : Option String := none
  config : Option String := none
  format : Format := .text
  verbosity : Nat := 0
  task : Task
  deriving DecidableEq, Repr

def Subcommand.task (family : Option String) : Subcommand → Task
  | freeze => .gate .freeze
  | approvals => .gate .approvals
  | schema => .gate .schema
  | evidence => .gate (.evidence (family.getD ""))
  | all => .all
  | list => .list

/-- What is given behind the subcommand counts before what is given in front of it. -/
def Line.ofGiven (front : Given) (subcommand : Subcommand) (behind : Given) : Line where
  root := behind.root.or front.root
  config := behind.config.or front.config
  format := (behind.format.or front.format).getD .text
  verbosity := (behind.verbosity.or front.verbosity).getD 0
  task := subcommand.task behind.family

/-- The command line that arguments spell. -/
def Line.ofArguments (arguments : List String) : Except Stop Line :=
  (top {} false arguments).map fun (front, subcommand, behind) => .ofGiven front subcommand behind

end Compliance.Command
