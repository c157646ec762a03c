import Mailroom.Journal
import Mailroom.Message.Framing

/-!
# Messages on their way out

The header is the only state that counts. Matching and sending look at a view of it in which
the address fields are in canonical form and hidden recipients are gone; the view is kept and
built anew when the header has changed.

* `Email`: header, body, what to log in with, and the kept view;
* `Desk`: a message and the journal of what has been done; `Work` is a step at a desk that
  may fail, and what was done before a failure stays done;
* `Email.read`, `Email.readStream`: the message of some octets;
* `Email.reconcile`: the view of a header; `Email.view`: the view, kept as long as it is fresh.
-/

namespace Mailroom

/-- A view of a header, with the revision of the header that it shows. -/
structure View where
  header : Header
  revision : Nat
deriving DecidableEq

/-- A message on its way out. -/
structure Email where
  header : Header
  message : Octets
  auth : Option Auth
  kept : Option View
deriving DecidableEq

/-- A message and the journal of what has been done. -/
structure Desk where
  email : Email
  journal : Journal

/-- A step at a desk that may fail; what was done before a failure stays done. -/
abbrev Work (α : Type) := ExceptT Failure (StateM Desk) α

namespace Email

/-- A message with a header and a body. -/
def ofParts (header : Header) (message : Octets) : Email := ⟨header, message, none, none⟩

/-- The names of the fields that hold addresses. -/
def addressFields : List Text := ["from", "to", "cc", "bcc"]

/-- The addresses of a field. -/
def addresses (e : Email) (field : Text) : Except Failure AddressList :=
  (e.header.addresses field).mapError (Failure.ofField field)

/-- The sender: the first address of the `From` field. -/
def sender (e : Email) : Except Failure (Option Address) := (e.addresses "from").map List.head?

/-- Every address field can be read. -/
def checkAddresses (e : Email) : Except Failure Unit :=
  addressFields.forM fun field => (e.addresses field).map fun _ => ()

/-- The message of some octets. Unless dots are to be ignored, a line that holds a dot alone
ends it. -/
def read (ignoreDots : Bool) (data : Octets) : Except Failure Email := do
  let lines := Framing.lines data
  let lines := if ignoreDots then lines else Framing.untilDot lines
  let (head, body) := Framing.headAndBody lines
  let header ← (Header.parse (head.map Utf8.decodeKeeping)).mapError
    fun fault => Failure.parse (.line fault)
  let email := ofParts header body
  email.checkAddresses
  return email

/-- The message of a stream, which is read no further than the line that ends it. -/
def readStream (ignoreDots : Bool) (data : Octets) : Except Failure Email :=
  read ignoreDots (if ignoreDots then data else Framing.beforeDot data)

/-- The names of the fields that a view shows in canonical form. -/
def shownFields : List Text := ["from", "to", "cc"]

/-- A field in canonical form. A value that cannot be read is kept as it is, and one without
addresses is left out. -/
def canonicalField (header : Header) (field : Text) : Except Failure (Option Text) :=
  if header.contains field then
    match header.addresses field with
    | .error (.fault _) => .ok (some (header.first field))
    | .error (.breakdown cause) => .error (.breakdown (.address cause))
    | .ok addresses =>
      let shown := if field = Text.ofString "from" then addresses.take 1 else addresses
      if shown.isEmpty then .ok none
      else match AddressList.render? shown with
        | some text => .ok (some text)
        | none => .error (.breakdown .unencodable)
  else .ok none

/-- A view with one more field in canonical form. -/
def addCanonical (header : Header) (view : Header) (field : Text) : Except Failure Header := do
  match ← canonicalField header field with
  | some text => (view.set field text).mapError Failure.header
  | none => return view

/-- The view of a header: address fields in canonical form, hidden recipients gone, all other
fields as they are, and closed to changes. -/
def reconcile (header : Header) : Except Failure Header := do
  let bare ← (addressFields.foldlM (fun (view : Header) field => view.delete field)
    header.clone).mapError Failure.header
  let view ← shownFields.foldlM (addCanonical header) bare
  return view.freeze

/-- The kept view, if the header has not changed since. -/
def fresh? (e : Email) : Option Header :=
  match e.kept with
  | some view => if view.revision = e.header.revision then some view.header else none
  | none => none

/-- The octets as text for people: what is not UTF-8 becomes a replacement character. -/
def body (e : Email) : Text := Utf8.decodeReplacing e.message

/-- The message as it is shown in reports. -/
def shown (e : Email) : Text :=
  "Email(header=" ++ e.header.shown ++ ", message=" ++ Octets.quoted e.message ++ ")"

end Email

namespace Work

/-- The message at the desk. -/
def email : Work Email := do return (← get).email

/-- An event put into the journal. -/
def note (event : Event) : Work Unit :=
  modify fun desk => { desk with journal := desk.journal ++ [event] }

/-- A log record. -/
def log (level : Level) (text : Option Text) : Work Unit := note (.log ⟨level, text⟩)

/-- The outcome of something that needs no desk. -/
def ofExcept {α : Type} : Except Failure α → Work α
  | .ok a => pure a
  | .error failure => throw failure

/-- The message at the desk, changed. -/
def change (f : Email → Email) : Work Unit :=
  modify fun desk => { desk with email := f desk.email }

/-- The header of the message, changed unless that is refused. -/
def changeHeader (f : Header → Except HeaderFault Header) : Work Unit := do
  let email ← email
  let header ← ofExcept ((f email.header).mapError Failure.header)
  change ({ · with header := header })

/-- One value in place of all that a field has. -/
def setHeader (field value : Text) : Work Unit := changeHeader (·.set field value)

/-- A field taken away. -/
def deleteHeader (field : Text) : Work Unit := changeHeader (·.delete field)

/-- A new sender, unless the text is no single address. -/
def setSender (value : Text) : Work Unit := do
  let _ ← ofExcept ((Address.parse value).mapError Failure.ofAddress)
  setHeader "from" value.trim

/-- New recipients, unless the text is no address list. -/
def setRecipients (value : Text) : Work Unit := do
  let _ ← ofExcept ((AddressList.parse value).mapError Failure.ofAddress)
  setHeader "to" value.trim

/-- The view of the message, built anew if the header has changed. -/
def view : Work Header := do
  let email ← email
  match email.fresh? with
  | some header => return header
  | none =>
    let header ← ofExcept (Email.reconcile email.header)
    change ({ · with kept := some ⟨header, email.header.revision⟩ })
    return header

end Work

end Mailroom
