import Mailroom.Text.Integer
import Mailroom.Text.Quoted
import Mailroom.Text.Split

/-!
# Servers and their answers

* `Smtp.splitServer`: the host and port of a server's name;
* `Smtp.Call`: what is said to a server;
* `Smtp.Fault`: what can go wrong on a connection, with its wording;
* `Smtp.Server`: what a server offers, where it fails and whom it refuses.
-/

namespace Mailroom.Smtp

/-- Why a server's name cannot be used. -/
inductive ServerFault where
  | noHost (server : Text)
  | badPort (server : Text)
deriving DecidableEq

/-- The wording of the reason. -/
def ServerFault.message : ServerFault → Text
  | noHost server => "smtp: invalid server address " ++ server.quoted
  | badPort server => "smtp: invalid port in server address " ++ server.quoted

/-- The port of servers that name none. -/
def defaultPort : Int := 25

/-- A square bracket. -/
def isBracket (c : CodePoint) : Bool := c.val == 0x5B || c.val == 0x5D

/-- The host and the text of the port: what stands before and after the last colon, unless that
colon is inside brackets. -/
def cutPort (server : Text) : Text × Text :=
  match Text.cutLast? ':' server with
  | some (host, port) => if port.any fun c => c.val == 0x5D then (server, []) else (host, port)
  | none => (server, [])

/-- The host and port of a server's name. -/
def splitServer (server : Text) : Except ServerFault (Text × Int) :=
  let (host, port) := cutPort server
  let host := Text.trimWhere isBracket host
  if host.isEmpty then .error (.noHost server)
  else if port.isEmpty then .ok (host, defaultPort)
  else match Text.toInt? port with
    | some n => .ok (host, n)
    | none => .error (.badPort server)

/-- A number of seconds in decimal notation. -/
structure Timeout where
  written : Text
deriving DecidableEq

/-- The time that is waited for an answer unless another is asked for. -/
def Timeout.standard : Timeout := ⟨"30.0"⟩

/-- What is said to a server. -/
inductive Call where
  | connect (host : Text) (port : Int) (timeout : Timeout)
  | hello
  | startTls
  | login (username password : Text)
  | mail (sender : Text) (recipients : List Text) (message : Octets)
  | quit
deriving DecidableEq

/-- The kinds of calls. -/
inductive CallKind where
  | connect
  | hello
  | startTls
  | login
  | mail
  | quit
deriving DecidableEq

/-- The kind of a call. -/
def Call.kind : Call → CallKind
  | connect .. => .connect
  | hello => .hello
  | startTls => .startTls
  | login .. => .login
  | mail .. => .mail
  | quit => .quit

/-- What an error answer of a server is about. -/
inductive ReplyKind where
  | data
  | connect
  | authentication
  | hello
  | response
deriving DecidableEq

/-- How a session can fail apart from error answers. -/
inductive ProtocolKind where
  | general
  | disconnected
  | notSupported
  | senderRefused
  | recipientsRefused
deriving DecidableEq

/-- What can go wrong on a connection. -/
inductive Fault where
  /-- The server answers with an error code. -/
  | reply (kind : ReplyKind) (code : Int) (text : Octets)
  /-- The session does not go as it has to. -/
  | protocol (kind : ProtocolKind) (text : Text)
  /-- The operating system reports an error, perhaps with a number. -/
  | system (number : Option Int) (text : Text)
  /-- Something that is no matter of delivery. -/
  | foreign (text : Text)
deriving DecidableEq

/-- The wording of what went wrong. -/
def Fault.message : Fault → Text
  | reply _ code text => "(" ++ Text.ofInt code ++ ", " ++ Octets.quoted text ++ ")"
  | protocol _ text => text
  | system (some number) text => "[Errno " ++ Text.ofInt number ++ "] " ++ text
  | system none text => text
  | foreign text => text

/-- What went wrong is a matter of delivery. -/
def Fault.isDelivery : Fault → Bool
  | foreign _ => false
  | _ => true

/-- A server: the extensions it offers, at first and on an encrypted connection, the calls at
which it fails, the recipients it refuses, each with a code and an answer, and the calls at which
it fails once encryption has been asked for, if these are others. -/
structure Server where
  extensions : List Text
  securedExtensions : Option (List Text)
  faults : List (CallKind × Fault)
  refused : List (Text × Int × Octets)
  securedFaults : Option (List (CallKind × Fault)) := none

/-- What goes wrong at a call, before or after encryption has been asked for. -/
def Server.fault? (server : Server) (secured : Bool) (kind : CallKind) : Option Fault :=
  let faults := if secured then server.securedFaults.getD server.faults else server.faults
  (faults.find? fun entry => entry.1 = kind).map (·.2)

/-- Encryption has been asked for. -/
def startsTls (calls : List Call) : Bool := calls.contains .startTls

@[simp] theorem startsTls_nil : startsTls [] = false := rfl

@[simp] theorem startsTls_append (calls more : List Call) :
    startsTls (calls ++ more) = (startsTls calls || startsTls more) := by
  simp [startsTls, Bool.decide_or]

/-- What goes wrong at a call that follows others. -/
def Server.faultAfter? (server : Server) (before : List Call) (call : Call) : Option Fault :=
  server.fault? (startsTls before) call.kind

/-- The extensions offered on a connection. -/
def Server.offered (server : Server) (secured : Bool) : List Text :=
  if secured then server.securedExtensions.getD server.extensions else server.extensions

/-- An extension is offered on a connection. -/
def Server.offers (server : Server) (secured : Bool) (name : String) : Bool :=
  (server.offered secured).contains (Text.ofString name)

end Mailroom.Smtp
