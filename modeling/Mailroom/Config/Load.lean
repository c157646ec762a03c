import Mailroom.Config.Record
import Mailroom.Files.Disk
import Mailroom.Files.Path
import Mailroom.Journal
import Mailroom.Yaml.Load

/-!
# Configurations

* `Config.place`: the path of the configuration: the one that is given, that of an environment
  variable, or one of two usual ones;
* `Config.load`: the configuration at such a path.
-/

namespace Mailroom

/-- A configuration: where it comes from, its records and their rules. -/
structure Config where
  path : Text
  records : List Record
  rules : List Rule
deriving DecidableEq

/-- What comes of loading a configuration. -/
structure Loading where
  journal : Journal
  result : Except Failure Config

namespace Config

/-- The variable that can hold the path. -/
def variableName : Text := "MAIL_RELAY_CONFIG"

/-- The usual path in the working directory. -/
def localPath : Text := "config.yml"

/-- The usual path for the whole system. -/
def systemPath : Text := "/etc/mail-relay.yml"

/-- The path of the configuration. An empty path or variable counts as none. -/
def place (disk : Disk) (env : Environment) (given : Option Text) : Text :=
  let named := (given.getD [], (env.get? variableName).getD [])
  if !named.1.isEmpty then (Path.parse named.1).shown
  else if !named.2.isEmpty then (Path.parse named.2).shown
  else if disk.has localPath then localPath
  else systemPath

/-- The failure to read what is at a path. -/
def yamlFailure (path : Text) : Yaml.Fault → Failure
  | .malformed => .config (.malformed path)
  | .breakdown cause => .breakdown (.yaml cause)

/-- What the file at a path says. -/
def readDocument (disk : Disk) (path : Text) : Except Failure Document :=
  if path.any fun c => c.val == 0 then .error (.breakdown .endMarkInPath)
  else if (Utf8.encode? path).isNone then .error (.breakdown .unencodable)
  else match disk.read path with
    | .error fault => .error (.config (.unopened path fault))
    | .ok octets => (Yaml.load octets).mapError (yamlFailure path)

/-- The records of the file at a path. -/
def readRecords (disk : Disk) (env : Environment) (path : Text) : Except Failure (List Record) :=
  (readDocument disk path).bind (Record.listOfDocument env)

/-- What is logged when records have been read. -/
def loadedText (count : Nat) (path : Text) : Text :=
  "Loaded " ++ Text.ofNat count ++ " rule(s) from " ++ path

/-- The configuration at the path that is given, or at one of the others. -/
def load (disk : Disk) (env : Environment) (given : Option Text) : Loading :=
  let path := place disk env given
  match readRecords disk env path with
  | .error failure => ⟨[], .error failure⟩
  | .ok records =>
    ⟨[.log ⟨.debug, some (loadedText records.length path)⟩],
      (Record.rules records).map fun rules => ⟨path, records, rules⟩⟩

end Config

end Mailroom
