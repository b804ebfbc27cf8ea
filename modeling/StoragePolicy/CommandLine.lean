import StoragePolicy.Client
import StoragePolicy.Config.Reading
import StoragePolicy.Folder
import StoragePolicy.Log.Events
import StoragePolicy.Policy.Document
import StoragePolicy.Text.Mended

/-!
# The Command Line

One run of the tool: a configuration, a policy document, a resource and a
principal go in, and the policy is attached on a ledger that lives as long as
the run. What comes out is the policy in its canonical spelling and the hash of
the transaction.

Arguments are taken from left to right. An argument is only looked into when
the next one comes, or the end, so an unknown option is reported before a bad
value that stands right in front of it, while a request for help is not granted
until that value has proved good. A double hyphen makes everything behind it a
value. That something is missing is noticed last.

The files are reached through a function, so that a run can be reasoned about
for every content and absence of them, and the time is an argument. So are the
two things that are written about a run without being decided here: the lines
of the log, and what the readers of the two documents add to a message in their
own words.

Standard output is shared. The log writes there while the run goes on, and what
the tool prints comes behind it, so an outcome keeps the two apart and `written`
puts them together.

## Main definitions

* `UsageFault`: Why the arguments do not make a run.
* `Arguments`, `Arguments.parse`: What a run is about.
* `Arguments.attach`: The run with its events.
* `Arguments.run`: What it comes to.
* `Remarks`: What readers add to a message.
* `Outcome`, `execute`: What the tool writes and returns.
-/

namespace StoragePolicy

open Text

/-- Why the arguments do not make a run; help and version count as reasons. -/
inductive UsageFault where
  | help
  | version
  | unknownArgument
  | surplusValue
  | emptyValue
  | badValue
  | missingArgument
  deriving DecidableEq

/-- The name of a usage fault. -/
def UsageFault.name : UsageFault → String
  | .help => "DisplayHelp"
  | .version => "DisplayVersion"
  | .unknownArgument => "UnknownArgument"
  | .surplusValue => "TooManyValues"
  | .emptyValue => "InvalidValue"
  | .badValue => "ValueValidation"
  | .missingArgument => "MissingRequiredArgument"

/-- What a run is about. The resource and the principal have been read by then, the
    two files have not. -/
structure Arguments where
  config : String
  policy : String
  resource : Resource
  principal : Principal
  deriving DecidableEq

/-- The values taken so far, in their order. -/
inductive Taken where
  | nothing
  | config (config : String)
  | policy (config policy : String)
  | resource (config policy : String) (resource : Resource)
  | all (arguments : Arguments)

namespace Taken

/-- How many values have been taken. -/
def size : Taken → Nat
  | .nothing => 0
  | .config _ => 1
  | .policy _ _ => 2
  | .resource _ _ _ => 3
  | .all _ => 4

/-- Looks into the next value. Paths must not be empty, the other two have to
    be what they are to be. -/
def add (taken : Taken) (value : String) : Except UsageFault Taken :=
  match taken with
  | .nothing => if value.isEmpty then .error .emptyValue else .ok (.config value)
  | .config c => if value.isEmpty then .error .emptyValue else .ok (.policy c value)
  | .policy c p =>
    match Resource.parse value with
    | .ok r => .ok (.resource c p r)
    | .error _ => .error .badValue
  | .resource c p r =>
    match Principal.parse value with
    | .ok q => .ok (.all ⟨c, p, r, q⟩)
    | .error _ => .error .badValue
  | .all _ => .error .unknownArgument

/-- Looks into a value that was waiting, if there was one. -/
def settle (taken : Taken) (waiting : Option String) : Except UsageFault Taken :=
  match waiting with
  | some value => taken.add value
  | none => .ok taken

end Taken

/-- What an argument is, as long as no double hyphen has come. -/
inductive ArgumentKind where
  | escape
  | refused (fault : UsageFault)
  | request (fault : UsageFault)
  | value

/-- Tells what an argument is. Of joined short options only the first counts,
    because either of the known ones ends the run. -/
def ArgumentKind.of (argument : List Char) : ArgumentKind :=
  match argument with
  | ['-', '-'] => .escape
  | '-' :: '-' :: option =>
    let name := option.takeWhile (· ≠ '=')
    let known :=
      if name = "help".toList then some UsageFault.help
      else if name = "version".toList then some .version
      else none
    match known with
    | none => .refused .unknownArgument
    | some fault => if option.contains '=' then .refused .surplusValue else .request fault
  | '-' :: option :: _ =>
    if option = 'h' then .request .help
    else if option = 'V' then .request .version
    else .refused .unknownArgument
  | _ => .value

namespace Arguments

/-- Takes the arguments from left to right. -/
def parseFrom (taken : Taken) (waiting : Option String) (escaped : Bool) :
    List String → Except UsageFault Arguments
  | [] => do
    match ← taken.settle waiting with
    | .all arguments => .ok arguments
    | _ => .error .missingArgument
  | argument :: rest =>
    let kind := if escaped then .value else ArgumentKind.of argument.toList
    match kind with
    | .escape => parseFrom taken waiting true rest
    | .refused fault => .error fault
    | .request fault => do
      let _ ← taken.settle waiting
      .error fault
    | .value =>
      if taken.size + (if waiting.isSome then 1 else 0) = 4 then .error .unknownArgument
      else do
        let taken ← taken.settle waiting
        parseFrom taken (some argument) escaped rest

/-- What the arguments ask for. -/
def parse (arguments : List String) : Except UsageFault Arguments :=
  parseFrom .nothing none false arguments

/-- What a successful run has to show: the octets of a text, and a hash. -/
structure Output where
  canonical : Octets
  hash : String
  deriving DecidableEq

/-- The configuration in a file. -/
def readConfig (files : String → Except FileFault Octets) (path : String) :
    Except Fault Config := do
  let text ← (files path >>= asText).mapError (.unreadableConfig path)
  Config.load text

/-- The policy in a file. -/
def readPolicy (files : String → Except FileFault Octets) (path : String) :
    Except Fault Policy := do
  let octets ← (files path).mapError (.unreadablePolicy path)
  decodePolicy octets

/-- Reads the configuration in a file, and tells what was loaded. -/
def loadConfig (files : String → Except FileFault Octets) (path : String) : Logged Config := do
  let config ← .quiet (readConfig files path)
  .log (.configLoaded config)
  return config

/-- Reads the policy in a file, and tells of words that are refused. -/
def loadPolicy (files : String → Except FileFault Octets) (path : String) : Logged Policy := do
  let octets ← .quiet ((files path).mapError (.unreadablePolicy path))
  .decodePolicy octets

/-- Attaches the policy on a ledger of the run's own. Every stage brings its events
    with it, and the first that fails ends the run. -/
def attach (arguments : Arguments) (files : String → Except FileFault Octets)
    (clock : Option UInt64) : Logged Output := do
  let config ← loadConfig files arguments.config
  let policy ← loadPolicy files arguments.policy
  let canonical ← .quiet (encodePolicy policy)
  let operator ← .quiet config.operator
  let client ← .newClient config (.development operator)
  let session : Session := { node := .ledger (.new config.chain.chainId) }
  let hash ← .putPolicy client clock arguments.resource arguments.principal policy none session
  .log (.attached arguments.resource arguments.principal hash)
  return { canonical := utf8 (mended canonical), hash }

/-- What a run comes to, its events left aside. -/
def run (arguments : Arguments) (files : String → Except FileFault Octets)
    (clock : Option UInt64) : Except Fault Output := (arguments.attach files clock).result

end Arguments

/-- What the readers of documents add to a message in their own words, about the
    octets that they do not take: how a configuration is broken, and where the
    reader of a policy has stopped. -/
structure Remarks where
  config (octets : Octets) : String
  policy (octets : Octets) : String

/-- Readers that add nothing. -/
def Remarks.none : Remarks := ⟨fun _ => "", fun _ => ""⟩

/-- What is added to the message of a fault. Faults that a reader has not found
    get nothing, and neither does a file that was not there to be read. -/
def Arguments.remark (arguments : Arguments) (files : String → Except FileFault Octets)
    (remarks : Remarks) (fault : Fault) : String :=
  match fault with
  | .badYaml => (files arguments.config).toOption.elim "" remarks.config
  | .badDocument _ _ => (files arguments.policy).toOption.elim "" remarks.policy
  | _ => ""

/-- What the tool leaves behind: its exit code and what it wrote. Texts of help
    and usage are not part of it. -/
structure Outcome where
  exit : UInt32
  /-- The lines of the log, on standard output. -/
  logged : Octets
  /-- What is printed behind them. -/
  printed : Option Octets
  /-- What stands on standard error. -/
  complaint : Option Octets
  deriving DecidableEq

/-- All that stands on standard output. The log has written its lines by the time
    that anything is printed. -/
def Outcome.written (outcome : Outcome) : Option Octets :=
  outcome.printed.map fun printed => outcome.logged ++ printed

/-- The name and version that the tool goes by. -/
def versionLine : String := "gnfd-policy 0.1.0\n"

/-- What is written for arguments that make no run. The log has been set up, but
    there is nothing to be logged. -/
def UsageFault.outcome (log : Log) : UsageFault → Outcome
  | .help => ⟨0, [], none, some log.notice⟩
  | .version => ⟨0, [], some (utf8 versionLine), some log.notice⟩
  | _ => ⟨2, [], some [], none⟩

/-- What is written for a run. Its events are logged as they come, and a failure
    is logged before it is complained of. -/
def runOutcome (log : Log) (remark : Fault → String) (run : Logged Arguments.Output) : Outcome :=
  match run.result with
  | .ok output => {
    exit := 0
    logged := log.write run.events
    printed := some (output.canonical ++ 0x0A :: utf8 output.hash ++ [0x0A])
    complaint := some log.notice }
  | .error fault => {
    exit := 1
    logged := log.write (run.events ++ [.failed fault (remark fault)])
    printed := some []
    complaint := some (log.notice ++
      utf8 (fault.code.name ++ ": " ++ fault.message ++ remark fault ++ "\n")) }

/-- All that the tool does with its arguments, the files and the time, for the
    log that was set up and the readers that it has. -/
def execute (log : Log) (remarks : Remarks) (arguments : List String)
    (files : String → Except FileFault Octets) (clock : Option UInt64) : Outcome :=
  match Arguments.parse arguments with
  | .error usage => usage.outcome log
  | .ok arguments =>
    runOutcome log (arguments.remark files remarks) (arguments.attach files clock)

end StoragePolicy
