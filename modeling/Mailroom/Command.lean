import Mailroom.Command.Options
import Mailroom.Config.Load
import Mailroom.Console
import Mailroom.Routing
import Mailroom.Smtp.Session

/-!
# The command

One message comes in and is handed on once, as the first rule that accepts it says.

* `Ending`: how a run of the command ends, with its exit status;
* `Command`: a step of a run, which may end it; what was done stays done;
* `Command.load`, `Command.receive`, `Command.address`, `Command.relay`: the steps, in order;
* `Console.written`: what of a journal comes to the console, if all of it can be written;
* `Command.run`: a run of the command.
-/

namespace Mailroom

/-- How a run of the command ends. -/
inductive Ending where
  | success
  | misused
  /-- A failure has been reported. -/
  | reported
  /-- A failure that nobody takes care of. -/
  | broken (failure : Failure)
deriving DecidableEq

/-- The exit status. -/
def Ending.status : Ending → Nat
  | success => 0
  | misused => 2
  | reported | broken _ => 1

/-- What a run of the command did, and how it ended. -/
structure Outcome where
  journal : Journal
  ending : Ending
deriving DecidableEq

/-- A step of a run, which may end it; what was done before stays done. -/
abbrev Command (α : Type) := ExceptT Ending (StateM Journal) α

namespace Command

/-- An event put into the journal. -/
def note (event : Event) : Command Unit := modify fun journal => journal ++ [event]

/-- The end of the run, behind a report. -/
def report {α : Type} (text : Text) : Command α := do
  note (.log ⟨.error, some text⟩)
  throw .reported

/-- What has been worked out, or the end of the run: with a report, if there is one for the
failure. -/
def orReport {α : Type} (text? : Failure → Option Text) : Except Failure α → Command α
  | .ok a => pure a
  | .error failure =>
    match text? failure with
    | some text => report text
    | none => throw (.broken failure)

/-- The report of a failure of any of the kinds that are reported. -/
def reportOf (opening : Text) (failure : Failure) : Option Text :=
  if failure.isReport then failure.message?.map (opening ++ ·) else none

/-- The report of what cannot be read. -/
def reportOfParse (opening : Text) : Failure → Option Text
  | .parse fault => some (opening ++ fault.message)
  | _ => none

/-- The rules of the configuration. -/
def load (disk : Disk) (env : Environment) (given : Option Text) : Command Router := do
  let loading := Config.load disk env given
  modify (· ++ loading.journal)
  orReport (reportOf "Invalid configuration: ")
    (loading.result.bind fun config => Router.ofRules config.rules)

/-- The message that comes in. -/
def receive (ignoreDots : Bool) (input : Octets) : Command Email :=
  orReport (reportOfParse "Unable to read stdin: ") (Email.readStream ignoreDots input)

/-- What is reported for an address that cannot be set. -/
def unsetText (field address : Text) : Text :=
  "Unable to set \"" ++ field ++ "\" address " ++ address.quoted ++ ": "

/-- What comes of some work on a message, and the message afterwards. -/
def work {α : Type} (email : Email) (w : Work α) : Command (Except Failure α × Email) := do
  let (result, desk) := (ExceptT.run w).run ⟨email, ← get⟩
  set desk.journal
  return (result, desk.email)

/-- The message with another sender, unless that is empty. -/
def setSender (sender : Text) (email : Email) : Command Email :=
  if sender.isEmpty then return email
  else do
    let (result, email) ← work email (Work.setSender sender)
    orReport (reportOfParse (unsetText "from" sender)) result
    return email

/-- The recipient that a word names. -/
def recipient (word : Text) : Command Address :=
  orReport (reportOfParse (unsetText "to" word)) ((Address.parse word).mapError Failure.ofAddress)

/-- The message with other recipients, unless there are none. -/
def setRecipients (words : List Text) (email : Email) : Command Email := do
  let recipients : AddressList ← words.mapM recipient
  if recipients.isEmpty then return email
  else match AddressList.render? recipients with
    | none => throw (.broken (.breakdown .unencodable))
    | some text =>
      let (result, email) ← work email (Work.setRecipients text)
      orReport (fun _ => none) result
      return email

/-- The message with the sender and the recipients of the command line. -/
def address (o : Options) (email : Email) : Command Email := do
  setRecipients o.recipients (← setSender o.sender email)

/-- What is reported for a message that cannot be sent. -/
def unsentText (e : Email) : Text :=
  "Unable to send email (from " ++ (e.header.first "from").quoted ++ ", to "
    ++ (e.header.first "to").quoted ++ ", msg " ++ e.body.quoted ++ "): "

/-- What is printed for a decision in a dry run, with its markup. -/
def dryRunMarkup (d : Decision) : Text :=
  "[dim](dry-run)[/] " ++ d.source ++ " → " ++ d.rule.server

/-- What is logged when a message has been handed on. -/
def sentText (d : Decision) : Text :=
  "Sent via " ++ d.rule.server ++ " (" ++ d.source ++ ")"

/-- The message handed on as the rules say; in a dry run, the decision printed instead. -/
def relay (server : Smtp.Server) (router : Router) (isDryRun : Bool) (email : Email) :
    Command Unit := do
  let (result, email) ←
    work email (router.deliver (Smtp.mailer server Smtp.Timeout.standard) isDryRun)
  let decision ← orReport (reportOf (unsentText email)) result
  if isDryRun then
    match Console.shown (dryRunMarkup decision) with
    | .ok line => note (.print line)
    | .error fault => throw (.broken (.breakdown (.markup fault)))
  else note (.log ⟨.debug, some (sentText decision)⟩)

/-- The steps of a run with given options. -/
def steps (server : Smtp.Server) (disk : Disk) (env : Environment) (input : Octets)
    (o : Options) : Command Unit := do
  let router ← load disk env o.config
  let email ← receive o.ignoresDots input
  let email ← address o email
  relay server router o.isDryRun email

end Command

namespace Console

/-- The event comes to the console or is none of its business. Details are written only if they
are asked for. -/
def isWritten (isVerbose : Bool) : Event → Bool
  | .log record => isVerbose || record.level ≠ .debug
  | _ => true

/-- The event is a log record whose text could not be put together. -/
def isUnwritable : Event → Bool
  | .log record => record.text.isNone
  | _ => false

/-- What of a run comes to the console. A log record that cannot be written ends the run. -/
def written (isVerbose : Bool) (outcome : Outcome) : Outcome :=
  let journal := outcome.journal.filter (isWritten isVerbose)
  match journal.dropWhile fun event => !isUnwritable event with
  | [] => ⟨journal, outcome.ending⟩
  | event :: _ =>
    ⟨journal.takeWhile (fun event => !isUnwritable event) ++ [event],
      .broken (.breakdown .unencodable)⟩

end Console

/-- A run of the command. -/
def Command.run (server : Smtp.Server) (disk : Disk) (env : Environment) (input : Octets)
    (words : List Text) : Outcome :=
  match Options.read words with
  | none => ⟨[], .misused⟩
  | some o =>
    if o.wantsHelp then ⟨[], .success⟩
    else
      let (result, journal) := (ExceptT.run (Command.steps server disk env input o)).run []
      let ending := match result with
        | .ok () => Ending.success
        | .error ending => ending
      Console.written o.isVerbose ⟨journal, ending⟩

end Mailroom
