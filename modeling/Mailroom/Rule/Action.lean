import Mailroom.Header.Name
import Mailroom.Rule.Template
import Mailroom.Text.Quoted

/-!
# Actions

* `Action`: put a rendered template in place of a field;
* `Action.parse`: the action of a line such as `SetHeader Subject:text`.
-/

namespace Mailroom

/-- Put a rendered template in place of a field. -/
structure Action where
  field : Text
  template : Text
deriving DecidableEq

/-- Why a line is no action. -/
inductive ActionFault where
  | noArguments
  | unknownCommand (command : Text)
  | noValue
  | noField
  | badField (field : Text)
  | badPlaceholder (template : Text)
deriving DecidableEq

/-- The wording of the reason. -/
def ActionFault.message : ActionFault → Text
  | noArguments => "invalid action syntax"
  | unknownCommand command => "unknown action command: " ++ command
  | noValue => "invalid SetHeader syntax: missing new value"
  | noField => "invalid SetHeader syntax: missing field name"
  | badField field => "invalid SetHeader syntax: bad field name " ++ field.quoted
  | badPlaceholder template =>
    "invalid SetHeader syntax: unterminated or invalid placeholder in " ++ template.quoted

namespace Action

/-- The action of a field and a template with a colon between them. -/
def parseAssignment (t : Text) : Except ActionFault Action :=
  match Text.cut? ':' t with
  | none => .error .noValue
  | some (field, template) =>
    let field := field.trim
    if field.isEmpty then .error .noField
    else if !FieldName.isValid field then .error (.badField field)
    else if !Template.isWellFormed template then .error (.badPlaceholder template)
    else .ok ⟨field, template⟩

/-- The action of a line: a command, a space and its arguments. -/
def parse (line : Text) : Except ActionFault Action :=
  match Text.cut? ' ' line with
  | none => .error .noArguments
  | some (command, arguments) =>
    if arguments.isEmpty then .error .noArguments
    else if command = Text.ofString "SetHeader" then parseAssignment arguments
    else .error (.unknownCommand command)

end Action

end Mailroom
