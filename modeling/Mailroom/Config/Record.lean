import Mailroom.Environment
import Mailroom.Rule.Basic
import Mailroom.Value.Shown

/-!
# Records of rules

* `Account`, `Record`: a rule as it is written in a configuration, with what to log in with;
* `Record.ofValue`: the record of a value;
* `Record.listOfDocument`: the records of a whole configuration, all of them or none;
* `Record.rules`: the rules of records.
-/

namespace Mailroom

/-- What to log in with, and where. -/
structure Account where
  username : Text
  password : Text
  host : Text
  server : Text
deriving DecidableEq

/-- A rule as it is written in a configuration. -/
structure Record where
  name : Text
  conditions : List Text
  actions : List Text
  account : Account
deriving DecidableEq

/-- The text of a value, if it can be written. -/
def Value.text (parts : Parts) (v : Value) : Except Failure Text :=
  match v.shown? parts with
  | some t => .ok t
  | none => .error (.breakdown .longInteger)

/-- The text of a value that is a text. -/
def Value.asText? : Value → Option Text
  | scalar (.text t) => some t
  | _ => none

/-- The entries of a value that is a mapping. -/
def Value.entries? (parts : Parts) (v : Value) : Option (List (Scalar × Value)) :=
  match v.opened parts with
  | mapping entries => some entries
  | _ => none

/-- The items of a value that is a list. Pairs are no items that anything can be made of. -/
def Value.items? (parts : Parts) (v : Value) : Option (List Value) :=
  match v.opened parts with
  | list items => some items
  | pairs items => some (items.map fun _ => scalar .null)
  | _ => none

namespace Account

/-- The value of an environment variable whose name is a value. -/
def lookUp (env : Environment) (rule : Text) (named : Value) : Except Failure Value :=
  match named.asText? with
  | none => .error (.breakdown .badVariableName)
  | some name =>
    if (Utf8.encode? name).isNone then .error (.breakdown .unencodable)
    else match env.get? name with
      | some value => .ok (.ofText value)
      | none => .error (.config (.unsetVariable rule name))

/-- The password: the one that is given, or the value of an environment variable. -/
def passwordValue (env : Environment) (parts : Parts) (rule : Text)
    (entries : List (Scalar × Value)) : Except Failure Value :=
  let given := Value.get entries "password"
  let named := Value.get entries "password_env"
  if given.isNull && named.isTrue parts then lookUp env rule named else .ok given

/-- The text of a value; that of a missing or empty one is empty. -/
def textOrEmpty (parts : Parts) (v : Value) : Except Failure Text :=
  if v.isTrue parts then v.text parts else .ok []

/-- The keys that have to be there. -/
def requiredKeys : List Text := ["username", "host", "server"]

/-- The required keys under which there is nothing. -/
def missingKeys (parts : Parts) (entries : List (Scalar × Value)) : List Text :=
  requiredKeys.filter fun key => !(Value.get entries key).isTrue parts

/-- The account of a value. -/
def ofValue (env : Environment) (parts : Parts) (rule : Text) (v : Value) :
    Except Failure Account :=
  match v.entries? parts with
  | none => .error (.config (.noAuth rule))
  | some entries => do
    let password ← passwordValue env parts rule entries
    let missing := missingKeys parts entries
    if !missing.isEmpty then .error (.config (.missingKeys rule missing))
    else
      let username ← (Value.get entries "username").text parts
      let password ← textOrEmpty parts password
      let host ← (Value.get entries "host").text parts
      let server ← (Value.get entries "server").text parts
      return ⟨username, password, host, server⟩

/-- What a mailer gets to log in with. -/
def credentials (a : Account) : Credentials := ⟨a.username, a.password, a.host, []⟩

end Account

namespace Record

/-- Some texts: none, one, or a list of them. -/
def textsOf (parts : Parts) (rule key : Text) (v : Value) : Except Failure (List Text) :=
  if v.isNull then .ok []
  else match v.asText? with
    | some t => .ok [t]
    | none => match (v.items? parts).bind fun items => items.mapM Value.asText? with
      | some ts => .ok ts
      | none => .error (.config (.noStringList rule key))

/-- The name of the rule at a position, counted from zero, unless it has another. -/
def usualName (position : Nat) : Text := "rule #" ++ Text.ofNat (position + 1)

/-- The name of a rule. -/
def nameOf (parts : Parts) (position : Nat) (entries : List (Scalar × Value)) :
    Except Failure Text :=
  let name := Value.get entries "name"
  if name.isTrue parts then name.text parts else .ok (usualName position)

/-- The record of a value at a position, counted from zero. -/
def ofValue (env : Environment) (parts : Parts) (position : Nat) (v : Value) :
    Except Failure Record :=
  match v.entries? parts with
  | none => .error (.config (.noMapping (position + 1)))
  | some entries => do
    let name ← nameOf parts position entries
    let conditions ← textsOf parts name "matchers" (Value.get entries "matchers")
    let actions ← textsOf parts name "actions" (Value.get entries "actions")
    let account ← Account.ofValue env parts name (Value.get entries "auth")
    return ⟨name, conditions, actions, account⟩

/-- The records of values from a position on. -/
def ofValuesFrom (env : Environment) (parts : Parts) (position : Nat) :
    List Value → Except Failure (List Record)
  | [] => .ok []
  | v :: vs => do
    let record ← ofValue env parts position v
    let records ← ofValuesFrom env parts (position + 1) vs
    return record :: records

/-- The value that lists the rules: the whole configuration, or what it has under `rules`. -/
def rulesValue (d : Document) : Value :=
  match d.root.entries? d.parts with
  | some entries => Value.get entries "rules"
  | none => d.root

/-- The records of a configuration; it may have none. -/
def listOfDocument (env : Environment) (d : Document) : Except Failure (List Record) :=
  let v := rulesValue d
  if v.isNull then .ok []
  else match v.items? d.parts with
    | some items => ofValuesFrom env d.parts 0 items
    | none => .error (.config .noList)

/-- The failure to make a rule names the rule. -/
def inRule (name : Text) : Failure → Failure
  | .config fault => .config (.inRule name fault)
  | failure => failure

/-- The rule of a record. -/
def rule (r : Record) : Except Failure Rule :=
  (Rule.build r.name r.account.server (some (.credentials r.account.credentials)) r.conditions
    r.actions).mapError (inRule r.name)

/-- The rules of records, in order. -/
def rules (records : List Record) : Except Failure (List Rule) := records.mapM rule

@[simp] theorem listOfDocument_null (env : Environment) :
    listOfDocument env (.ofValue (.scalar .null)) = .ok [] := rfl

end Record

end Mailroom
