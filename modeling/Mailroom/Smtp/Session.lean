import Mailroom.Address.Envelope
import Mailroom.Journal

/-!
# Sessions with a server

One attempt to hand over a message, encrypted if the server offers that.

* `Session`: a step of a session, in which calls are noted and may fail;
* `Smtp.converse`: what is said between connecting and leaving;
* `Smtp.session`: the whole session; leaving is noted however it ends;
* `Smtp.deliver`: an attempt to hand over a message, and `Smtp.mailer` as a mailer.
-/

namespace Mailroom.Smtp

/-- A step of a session: it may fail, and the calls made stay made. -/
abbrev Session (α : Type) := ExceptT Failure (StateM (List Call)) α

/-- A call to the server, which may fail at it. -/
def Session.say (server : Server) (call : Call) : Session Unit := do
  let calls ← get
  modify fun calls => calls ++ [call]
  match server.faultAfter? calls call with
  | some fault => throw (.connection fault)
  | none => return ()

/-- The login with credentials, unless they must not be sent. -/
def logIn (server : Server) (host : Text) (secured : Bool) (c : Credentials) : Session Unit :=
  match c.refusal? host secured with
  | some fault => throw (.delivery (.credentials fault))
  | none => Session.say server (.login c.username c.password)

/-- Encryption, if the server offers it; whether the connection is encrypted then. -/
def secure (server : Server) : Session Bool := do
  Session.say server .hello
  if server.offers false "starttls" then
    Session.say server .startTls
    Session.say server .hello
    return true
  else return false

/-- The login, if there is something to log in with. -/
def authenticate (server : Server) (host : Text) (secured : Bool) : Option Auth → Session Unit
  | none => return ()
  | some auth =>
    if server.offers secured "auth" then
      match auth with
      | .credentials c => logIn server host secured c
      | .token _ => throw (.breakdown .unusableAuth)
    else throw (.delivery .noLogin)

/-- What is said between connecting and leaving. -/
def converse (server : Server) (host : Text) (auth : Option Auth) (sender : Text)
    (recipients : List Text) (message : Octets) : Session Unit := do
  let secured ← secure server
  authenticate server host secured auth
  Session.say server (.mail sender recipients message)

/-- The session after connecting: leaving is said however it ends, and a failure to leave
takes the place of an earlier one. -/
def leaving (server : Server) (body : Session Unit) : Session Unit := do
  let outcome : Except Failure Unit ← ExceptT.lift (ExceptT.run body)
  Session.say server .quit
  match outcome with
  | .ok () => return ()
  | .error failure => throw failure

/-- The whole session. -/
def session (server : Server) (timeout : Timeout) (host : Text) (port : Int)
    (auth : Option Auth) (sender : Text) (recipients : List Text) (message : Octets) :
    Session Unit := do
  Session.say server (.connect host port timeout)
  leaving server (converse server host auth sender recipients message)

/-- A failure on the connection is reported as a failed delivery, if it is a matter of that. -/
def reported (name : Text) : Failure → Failure
  | .connection fault =>
    if fault.isDelivery then .delivery (.connection name fault) else .connection fault
  | failure => failure

/-- What is logged for a recipient that the server refused. -/
def refusedText (name : Text) (entry : Text × Int × Octets) : Text :=
  "Recipient " ++ entry.1 ++ " refused by " ++ name ++ ": " ++ Text.ofInt entry.2.1 ++ " "
    ++ Octets.quoted entry.2.2

/-- An attempt to hand over a message. -/
def deliver (server : Server) (timeout : Timeout) (name : Text) (auth : Option Auth)
    (sender : Text) (recipients : List Text) (message : Octets) : Delivery :=
  match splitServer name with
  | .error fault => ⟨[], .error (.delivery (.server fault))⟩
  | .ok (host, port) =>
    let attempt := session server timeout host port auth (Envelope.bare sender)
      (recipients.map Envelope.bare) message
    let (outcome, calls) := (ExceptT.run attempt).run []
    let said : Journal := calls.map Event.call
    match outcome with
    | .ok () =>
      ⟨said ++ server.refused.map fun entry => .log ⟨.warning, some (refusedText name entry)⟩,
        .ok ()⟩
    | .error failure => ⟨said, .error (reported name failure)⟩

/-- The mailer that hands messages to a server. -/
def mailer (server : Server) (timeout : Timeout) : Mailer := fun d =>
  deliver server timeout d.host d.auth d.sender d.recipients d.message

end Mailroom.Smtp
