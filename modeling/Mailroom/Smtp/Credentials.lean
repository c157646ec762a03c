import Mailroom.Text.Quoted

/-!
# Credentials

* `Credentials`: a user name and password with the one server that they are for;
* `Auth`: what a rule brings along for the mailer to log in with;
* `Credentials.refusal?`: why the credentials must not be sent on a connection.
-/

namespace Mailroom

/-- A user name and password, and the name of the server that they are for. -/
structure Credentials where
  username : Text
  password : Text
  host : Text
  identity : Text
deriving DecidableEq

/-- What a mailer gets to log in with: credentials, or something only it understands. -/
inductive Auth where
  | credentials (credentials : Credentials)
  | token (label : Text)
deriving DecidableEq

/-- Why credentials are not sent. -/
inductive CredentialsFault where
  | unencrypted
  | wrongHost (name expected : Text)
deriving DecidableEq

/-- The wording of the reason. -/
def CredentialsFault.message : CredentialsFault → Text
  | unencrypted => "smtp: refusing to send credentials over an unencrypted connection"
  | wrongHost name expected =>
    "smtp: wrong host name " ++ name.quoted ++ " for credentials (expected " ++ expected.quoted
      ++ ")"

namespace Credentials

/-- The names of this machine, to which a connection needs no encryption. -/
def localNames : List String := ["localhost", "127.0.0.1", "::1"]

/-- The name is one of this machine. -/
def isLocal (host : Text) : Bool := localNames.any fun s => decide (Text.ofString s = host)

/-- Why the credentials must not be sent to a host; `none` if they may. -/
def refusal? (c : Credentials) (host : Text) (secured : Bool) : Option CredentialsFault :=
  if !secured && !isLocal host then some .unencrypted
  else if host ≠ c.host then some (.wrongHost host c.host)
  else none

/-- The credentials as they are shown in messages, without the password. -/
def shown (c : Credentials) : Text :=
  "SMTPAuth(username=" ++ c.username.quoted ++ ", host=" ++ c.host.quoted ++ ", identity="
    ++ c.identity.quoted ++ ")"

theorem host_eq_of_refusal?_eq_none {c : Credentials} {host : Text} {secured : Bool}
    (h : c.refusal? host secured = none) : host = c.host := by
  unfold refusal? at h
  split at h
  · simp at h
  · split at h
    · simp at h
    · rename_i hne
      simpa using hne

end Credentials

end Mailroom
