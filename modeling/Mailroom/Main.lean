import Mailroom.Command

/-!
# The program

Reads the environment, the configuration and standard input, runs the command, and writes what
it prints and logs to standard error. There is no network here, so connecting always fails.

* `main`: the program; its result is the exit status.
-/

namespace Mailroom.Program

/-- The text as it is written. -/
def written (t : Text) : String :=
  String.ofList (t.map fun c => Char.ofNat (if c.isSurrogate then 0xFFFD else c.val))

/-- Why a file could not be read. -/
def faultOf : IO.Error → FileFault
  | .noFileOrDirectory .. => .missing
  | .inappropriateType _ code reason =>
    if code = 20 then .inNoDirectory
    else if code = 21 then .isDirectory
    else .other code.toNat (Text.ofString reason)
  | e => .other 5 (Text.ofString e.toString)

/-- The octets of the file at a path. -/
def fileAt (path : Text) : IO (Except FileFault Octets) := do
  try
    return .ok (← IO.FS.readBinFile (written path)).toList
  catch e => return .error (faultOf e)

/-- There is something at a path that was looked at. -/
def isThere : Except FileFault Octets → Bool
  | .error .missing | .error .inNoDirectory => false
  | _ => true

/-- The variables of the environment. -/
def environment : IO Environment := do
  match ← fileAt "/proc/self/environ" with
  | .ok block => return Environment.ofBlock block
  | .error _ => return ⟨[]⟩

/-- The part of the disk that a run with some options looks at. -/
def disk (env : Environment) (given : Option Text) : IO Disk := do
  let isLocal := isThere (← fileAt Config.localPath)
  let has (path : Text) : Bool := isLocal && path = Config.localPath
  let path := Config.place ⟨fun _ => .error .missing, has⟩ env given
  let file ← fileAt path
  return ⟨fun p => if p = path then file else .error .missing, has⟩

/-- A server that cannot be reached. -/
def unreachable : Smtp.Server :=
  { extensions := [], securedExtensions := none,
    faults := [(.connect, .system (some 101) "Network is unreachable")], refused := [] }

/-- The name of a level. -/
def levelName : Level → String
  | .debug => "DEBUG"
  | .info => "INFO"
  | .warning => "WARNING"
  | .error => "ERROR"

/-- The line for an event, if there is one. -/
def lineOf : Event → Option String
  | .log record => record.text.map fun text => levelName record.level ++ " " ++ written text
  | .print line => some (written line)
  | .dispatch _ | .call _ => none

/-- How the program is used. -/
def usage : String :=
  "Usage: mailroom [-c FILE] [-f ADDRESS] [-n] [-v] [-i] [-t] [-o OPTION] [RECIPIENT]..."

/-- What an outcome writes to standard error, and its exit status. -/
def finish (outcome : Outcome) : IO UInt32 := do
  for event in outcome.journal do
    if let some line := lineOf event then IO.eprintln line
  if let .broken failure := outcome.ending then
    IO.eprintln ((failure.message?.map written).getD "unexpected failure")
  return UInt32.ofNat outcome.ending.status

/-- The whole run with given options. -/
def runWith (words : List Text) (o : Options) : IO UInt32 := do
  let env ← environment
  let disk ← disk env o.config
  let input ← (← IO.getStdin).readBinToEnd
  finish (Command.run unreachable disk env input.toList words)

/-- Runs the command, or says how it is used. -/
def run (arguments : List String) : IO UInt32 := do
  let words := arguments.map Text.ofString
  match Options.read words with
  | none =>
    IO.eprintln usage
    finish ⟨[], .misused⟩
  | some o =>
    if o.wantsHelp then
      IO.println usage
      finish ⟨[], .success⟩
    else runWith words o

end Mailroom.Program

/-- Runs the command on standard input; the result is the exit status. -/
def main (arguments : List String) : IO UInt32 := Mailroom.Program.run arguments
