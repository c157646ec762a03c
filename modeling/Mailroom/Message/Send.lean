import Mailroom.Header.Writer
import Mailroom.Message.Basic

/-!
# Sending

* `Work.send`: hand the message at the desk to a mailer, once.
-/

namespace Mailroom

/-- The octets of a message: the written header, an empty line and the body. -/
def Email.wire? (view : Header) (message : Octets) : Option Octets :=
  view.write?.map fun head => head ++ [0x0D, 0x0A, 0x0D, 0x0A] ++ message

/-- What is logged before a message is handed on. -/
def Email.sendingText (sender : Address) (recipients : AddressList) (host : Text) :
    Option Text := do
  let sender ← sender.render?
  let recipients ← AddressList.render? recipients
  return "Sending email from " ++ sender ++ " to " ++ recipients ++ " via " ++ host

/-- The message at the desk handed to a mailer, once. The recipients are those of `To`, then of
`Cc`, then of `Bcc`. -/
def Work.send (mailer : Mailer) (host : Text) : Work Unit := do
  let email ← email
  let sender ← ofExcept email.sender
  let primary ← ofExcept (email.addresses "to")
  let cc ← ofExcept (email.addresses "cc")
  let bcc ← ofExcept (email.addresses "bcc")
  match sender with
  | none => throw .undeliverable
  | some sender =>
    if primary.isEmpty then throw .undeliverable
    else
      let recipients := primary ++ cc ++ bcc
      let view ← view
      match Email.wire? view email.message with
      | none => throw (.breakdown .unencodable)
      | some wire =>
        log .debug (Email.sendingText sender recipients host)
        let dispatch : Dispatch :=
          ⟨host, email.auth, sender.address, AddressList.addresses recipients, wire⟩
        note (.dispatch dispatch)
        let delivery := mailer dispatch
        modify fun desk => { desk with journal := desk.journal ++ delivery.journal }
        ofExcept delivery.result

end Mailroom
