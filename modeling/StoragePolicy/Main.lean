import Std.Time.DateTime.Timestamp
import StoragePolicy.CommandLine

/-!
# The Program

The thin layer around a run: the two files are fetched, the clock is read, and
what `execute` leaves behind is written out. Nothing is decided here but how an
error of the operating system is called and what the help says. The program has
no log of its own, and its readers add nothing to a message.

## Main definitions

* `StoragePolicy.fetch`: A file's octets or why there are none.
* `main`: The program.
-/

namespace StoragePolicy

open Text

/-- The number that came with an error, where one did. -/
def reportedNumber : IO.Error → UInt32
  | .alreadyExists _ n _ | .otherError n _ | .resourceBusy n _ | .resourceVanished n _
  | .unsupportedOperation n _ | .hardwareFault n _ | .unsatisfiedConstraints n _
  | .illegalOperation n _ | .protocolError n _ | .timeExpired n _ | .interrupted _ n _
  | .noFileOrDirectory _ n _ | .invalidArgument _ n _ | .permissionDenied _ n _
  | .resourceExhausted _ n _ | .inappropriateType _ n _ | .noSuchThing _ n _ => n
  | .unexpectedEof | .userError _ => 0

/-- The number that the operating system gave an error. It is reported as it is
    or negated, depending on which call met it. -/
def errorNumber (error : IO.Error) : UInt32 :=
  let n := reportedNumber error
  if n < 0x80000000 then n else 0 - n

/-- What an error of the operating system means for a file. -/
def fileFault (error : IO.Error) : FileFault :=
  match errorNumber error with
  | 2 => .notFound
  | 20 => .notFolder
  | 21 => .isFolder
  | 36 => .nameTooLong
  | _ => .other (toString error)

/-- A file's octets, or why there are none. -/
def fetch (path : String) : IO (Except FileFault Octets) := do
  if path.toList.contains '\x00' then return .error .nullInName
  match ← (IO.FS.readBinFile path).toBaseIO with
  | .ok octets => return .ok octets.toList
  | .error error => return .error (fileFault error)

/-- The seconds since the epoch, unless the clock stands before it. -/
def readClock : IO (Option UInt64) := do
  let seconds := (← Std.Time.Timestamp.now).toSecondsSinceUnixEpoch.val
  return if seconds < 0 then none else some (UInt64.ofNat seconds.toNat)

/-- What is written for a request for help. -/
def helpText : String :=
  "Validate a policy document and attach it on a local dev chain\n\n"
    ++ "Usage: gnfd-policy <CONFIG> <POLICY> <GRN> <PRINCIPAL>\n"

/-- What is written for arguments that make no run. -/
def usageText : String :=
  "error: the arguments do not make a run\n\n"
    ++ "Usage: gnfd-policy <CONFIG> <POLICY> <GRN> <PRINCIPAL>\n"

/-- The files that the arguments name, fetched before the run. -/
def fetchFiles (arguments : List String) : IO (String → Except FileFault Octets) := do
  match Arguments.parse arguments with
  | .error _ => return fun _ => .error .notFound
  | .ok parsed =>
    let config ← fetch parsed.config
    let policy ← fetch parsed.policy
    return fun path => if path = parsed.config then config else policy

/-- Runs the tool and returns its exit code. -/
def runProgram (arguments : List String) : IO UInt32 := do
  let outcome := execute .silent .none arguments (← fetchFiles arguments) (← readClock)
  let written := outcome.written.getD (utf8 helpText)
  let complaint := outcome.complaint.getD (utf8 usageText)
  (← IO.getStdout).write written.toByteArray
  (← IO.getStderr).write complaint.toByteArray
  return outcome.exit

end StoragePolicy

/-- Attaches a policy document on a ledger of the run's own. -/
def main (arguments : List String) : IO UInt32 := StoragePolicy.runProgram arguments
