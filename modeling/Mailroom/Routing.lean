import Mailroom.Message.Send
import Mailroom.Rule.Basic

/-!
# Routing

The first rule that accepts a message decides; the order of the rules is their precedence.

* `Router`: rules, of which there is at least one;
* `Decision`: the rule that decides, and its position;
* `Router.decide`: the decision for the message at the desk, whose actions are carried out;
* `Router.deliver`: the same, and the message is handed on, unless it is a dry run.
-/

namespace Mailroom

/-- Rules in order of precedence. -/
structure Router where
  first : Rule
  more : List Rule

/-- The rules of a router. -/
def Router.rules (r : Router) : List Rule := r.first :: r.more

/-- The router of some rules, of which there has to be one. -/
def Router.ofRules : List Rule → Except Failure Router
  | [] => .error (.config .noRules)
  | first :: more => .ok ⟨first, more⟩

/-- The rule that decides, and its position, counted from zero. -/
structure Decision where
  rule : Rule
  position : Nat
deriving DecidableEq

/-- Where a decision comes from, for people. -/
def Decision.source (d : Decision) : Text :=
  "Rule #" ++ Text.ofNat (d.position + 1) ++ ": " ++ d.rule.name

namespace Router

/-- What is logged when a rule accepts a message. -/
def matchedText (r : Rule) : Text :=
  "Matched rule " ++ r.name.quoted ++ " (matchers: "
    ++ Text.quotedList (r.matchers.map Matcher.shown) ++ ")"

/-- The decision among rules from a position on. -/
def decideFrom (position : Nat) : List Rule → Work Decision
  | [] => throw .noRoute
  | r :: rules => do
    if ← r.accepts then
      Work.log .debug (some (matchedText r))
      r.apply
      Work.change ({ · with auth := r.auth })
      return ⟨r, position⟩
    else decideFrom (position + 1) rules

/-- The decision for the message at the desk. -/
def decide (router : Router) : Work Decision := decideFrom 0 router.rules

/-- What is logged before a message is sent. -/
def tryingText (e : Email) : Text :=
  "Trying to send email from " ++ (e.header.first "from").quoted ++ " to "
    ++ (e.header.first "to").quoted ++ ", message follows\n" ++ e.body

/-- The decision for the message at the desk, which is then handed on once, unless it is a
dry run. -/
def deliver (router : Router) (mailer : Mailer) (dryRun : Bool) : Work Decision := do
  let decision ← router.decide
  let email ← Work.email
  Work.log .debug (some (tryingText email))
  if dryRun then
    Work.log .info (some "Dry run requested; not sending email")
    return decision
  else
    Work.send mailer decision.rule.server
    return decision

end Router

end Mailroom
