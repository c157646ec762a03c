import Mailroom.Message.Basic

/-!
# Rules

* `Rule`: matchers that must all accept a message, actions on it, and where to send it;
* `Matcher.accepts`, `Rule.accepts`: the message at the desk is accepted;
* `Rule.apply`: the actions carried out on the message at the desk;
* `Rule.build`: the rule of some conditions and action lines.
-/

namespace Mailroom

/-- Matchers that must all accept a message, and what to do with such a message. -/
structure Rule where
  name : Text
  matchers : List Matcher
  actions : List Action
  auth : Option Auth
  server : Text
deriving DecidableEq

namespace Condition

/-- The value that a condition looks at; a field without a readable address has none. -/
def valueIn (c : Condition) (view : Header) : Except Failure (Option Text) :=
  match c.kind with
  | .plain => .ok (some (view.first c.field))
  | .address => match view.address c.field with
    | .ok (some address) => .ok (some address.address)
    | .ok none => .ok none
    | .error (.fault _) => .ok none
    | .error (.breakdown cause) => .error (.breakdown (.address cause))

end Condition

/-- The message at the desk is accepted. -/
def Matcher.accepts : Matcher → Work Bool
  | everything => return true
  | field c => do
    let view ← Work.view
    match ← Work.ofExcept (c.valueIn view) with
    | some value =>
      Work.ofExcept ((c.accepts value).mapError fun cause => .breakdown (.pattern cause))
    | none => return false

namespace Rule

/-- All of the matchers accept the message at the desk. -/
def allAccept : List Matcher → Work Bool
  | [] => return true
  | m :: ms => do
    if ← m.accepts then allAccept ms else return false

/-- The rule has matchers, and all of them accept the message at the desk. -/
def accepts (r : Rule) : Work Bool :=
  if r.matchers.isEmpty then return false else allAccept r.matchers

/-- The actions carried out in order on the message at the desk. -/
def apply (r : Rule) : Work Unit :=
  r.actions.forM fun action => do
    let email ← Work.email
    Work.setHeader action.field (Template.render email.header.first action.template)

/-- The matchers of some conditions. -/
def parseMatchers (conditions : List Text) : Except Failure (List Matcher) :=
  conditions.mapM fun condition => (Matcher.parse condition).mapError Failure.ofMatcher

/-- The actions of some lines. -/
def parseActions (lines : List Text) : Except Failure (List Action) :=
  lines.mapM fun line => (Action.parse line).mapError Failure.ofAction

/-- The rule of some conditions and action lines; conditions are looked at first. -/
def build (name server : Text) (auth : Option Auth) (conditions lines : List Text) :
    Except Failure Rule := do
  let matchers ← parseMatchers conditions
  let actions ← parseActions lines
  return ⟨name, matchers, actions, auth, server⟩

end Rule

end Mailroom
