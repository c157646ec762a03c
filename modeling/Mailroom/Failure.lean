import Mailroom.Console.Markup
import Mailroom.Files.Disk
import Mailroom.Header.Reader
import Mailroom.Rule.Action
import Mailroom.Rule.Matcher
import Mailroom.Smtp.Credentials
import Mailroom.Smtp.Server
import Mailroom.Yaml.Fault

/-!
# Failures

Every failure ends what was being done; nothing is tried again.

* `ParseFault`: a message or an address that cannot be read;
* `ConfigFault`: a configuration that cannot be used;
* `DeliveryFault`: a message that could not be handed over;
* `Breakdown`: causes for which there is no report;
* `Failure`: any of these; `Failure.message?` is the report.
-/

namespace Mailroom

/-- Why a message or an address cannot be read. -/
inductive ParseFault where
  | address (fault : Address.Fault)
  | field (name : Text) (fault : Address.Fault)
  | line (fault : LineFault)
deriving DecidableEq

/-- The wording of the reason. -/
def ParseFault.message : ParseFault → Text
  | address fault => fault.message
  | field name fault => "invalid \"" ++ name ++ "\" field: " ++ fault.message
  | line fault => fault.message

/-- Why a configuration cannot be used. -/
inductive ConfigFault where
  | noRules
  | action (fault : ActionFault)
  | matcher (fault : MatcherFault)
  | inRule (name : Text) (fault : ConfigFault)
  | noList
  | noMapping (position : Nat)
  | noStringList (rule key : Text)
  | noAuth (rule : Text)
  | unsetVariable (rule variableName : Text)
  | missingKeys (rule : Text) (keys : List Text)
  | unopened (path : Text) (fault : FileFault)
  | malformed (path : Text)
deriving DecidableEq

/-- The wording of the reason. -/
def ConfigFault.message : ConfigFault → Text
  | noRules => "no rules configured"
  | action fault => fault.message
  | matcher fault => fault.message
  | inRule name fault => "rule " ++ name.quoted ++ ": " ++ fault.message
  | noList => "config must be a list of rules"
  | noMapping position => "rule #" ++ Text.ofNat position ++ " must be a mapping"
  | noStringList rule key =>
    "rule " ++ rule.quoted ++ ": " ++ key.quoted ++ " must be a list of strings"
  | noAuth rule => "rule " ++ rule.quoted ++ ": missing 'auth' section"
  | unsetVariable rule variableName =>
    "rule " ++ rule.quoted ++ ": environment variable " ++ variableName.quoted ++ " is not set"
  | missingKeys rule keys => "rule " ++ rule.quoted ++ ": auth is missing " ++ Text.join ", " keys
  | unopened path fault =>
    "unable to open " ++ path.quoted ++ ": [Errno " ++ Text.ofNat fault.number ++ "] "
      ++ fault.reason ++ ": " ++ path.quoted
  | malformed path => "unable to parse yaml in " ++ path.quoted

/-- Why a message could not be handed over. -/
inductive DeliveryFault where
  | server (fault : Smtp.ServerFault)
  | credentials (fault : CredentialsFault)
  | noLogin
  | connection (server : Text) (fault : Smtp.Fault)
deriving DecidableEq

/-- The wording of the reason. -/
def DeliveryFault.message : DeliveryFault → Text
  | server fault => fault.message
  | credentials fault => fault.message
  | noLogin => "smtp: server doesn't support AUTH"
  | connection name fault => "smtp: unable to deliver via " ++ name ++ ": " ++ fault.message

/-- A cause for which there is no report. -/
inductive Breakdown where
  | address (cause : Address.Breakdown)
  | pattern (cause : Pattern.Breakdown)
  /-- A text with lone surrogates has to be written where they cannot be. -/
  | unencodable
  | yaml (cause : Yaml.Breakdown)
  /-- The path of a file holds the end mark of paths. -/
  | endMarkInPath
  /-- An integer has too many digits to be written. -/
  | longInteger
  /-- The name of an environment variable is no text. -/
  | badVariableName
  /-- What a mailer got to log in with are no credentials. -/
  | unusableAuth
  /-- Markup in a text to be printed cannot be rendered. -/
  | markup (fault : Markup.Fault)
deriving DecidableEq

/-- The kinds of reports that a mailer of another make can give. -/
inductive ReportKind where
  | general
  | parse
  | config
  | validation
  | routing
  | delivery
deriving DecidableEq

/-- A failure. -/
inductive Failure where
  | parse (fault : ParseFault)
  | config (fault : ConfigFault)
  /-- Sender or recipients are missing. -/
  | undeliverable
  | noRoute
  | delivery (fault : DeliveryFault)
  | reported (kind : ReportKind) (text : Text)
  | header (fault : HeaderFault)
  /-- A connection failed in a way that is passed on as it is. -/
  | connection (fault : Smtp.Fault)
  | breakdown (cause : Breakdown)
deriving DecidableEq

namespace Failure

/-- The report of a failure, if there is one. -/
def message? : Failure → Option Text
  | parse fault => some fault.message
  | config fault => some fault.message
  | undeliverable => some "must have from and to addresses set"
  | noRoute => some "no rules matched"
  | delivery fault => some fault.message
  | reported _ text => some text
  | header fault => some fault.message
  | connection _ | breakdown _ => none

/-- The failure is one of those that the command reports, not a mistake in its use or a
breakdown. -/
def isReport : Failure → Bool
  | parse _ | config _ | undeliverable | noRoute | delivery _ | reported .. => true
  | header _ | connection _ | breakdown _ => false

/-- The kind of a report. -/
def reportKind? : Failure → Option ReportKind
  | parse _ => some .parse
  | config _ => some .config
  | undeliverable => some .validation
  | noRoute => some .routing
  | delivery _ => some .delivery
  | reported kind _ => some kind
  | header _ | connection _ | breakdown _ => none

/-- The failure of an address. -/
def ofAddress : Address.Failure → Failure
  | .fault fault => parse (.address fault)
  | .breakdown cause => breakdown (.address cause)

/-- The failure of a field that holds addresses. -/
def ofField (name : Text) : Address.Failure → Failure
  | .fault fault => parse (.field name fault)
  | .breakdown cause => breakdown (.address cause)

/-- The failure of a condition. -/
def ofMatcher : Matcher.Failure → Failure
  | .fault fault => config (.matcher fault)
  | .breakdown cause => breakdown (.pattern cause)

/-- The failure of an action. -/
def ofAction (fault : ActionFault) : Failure := config (.action fault)

theorem isReport_eq_isSome_reportKind? (f : Failure) : f.isReport = f.reportKind?.isSome := by
  cases f <;> rfl

end Failure

end Mailroom
