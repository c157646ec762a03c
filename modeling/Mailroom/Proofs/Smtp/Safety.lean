import Mailroom.Proofs.Perform
import Mailroom.Smtp.Session

/-!
# Safety of sessions with a server

What is said to a server in one attempt, whatever it offers and at whichever call it fails.

* `Opening`, `Conversed`: the calls that a session can consist of, with what comes of them;
* `SafeDelivery`: what the calls and the outcome of an attempt have to keep to;
* `safeDelivery_deliver`: every attempt keeps to it.
-/

namespace Mailroom.Smtp

/-! ### Single steps -/

section Steps

variable (server : Server) (host : Text) (auth : Option Credentials) (sender : Text)
  (recipients : List Text) (message : Octets) (calls : List Call)

/-- What comes of a call of some kind, before or after encryption has been asked for. -/
def Server.outcome (secured : Bool) (kind : CallKind) : Except Failure Unit :=
  match server.fault? secured kind with
  | some fault => .error (.connection fault)
  | none => .ok ()

@[simp] theorem perform_say (call : Call) :
    perform (Session.say server call) calls =
      (server.outcome (startsTls calls) call.kind, calls ++ [call]) := by
  unfold Session.say Server.outcome Server.faultAfter?
  rw [perform_bind, perform_get]
  simp only
  rw [perform_bind, perform_modify]
  cases server.fault? (startsTls calls) call.kind <;> rfl

/-- How a session begins if nothing fails, and whether it is encrypted then. -/
inductive Opening : Bool → List Call → Prop
  | plain (h : server.offers false "starttls" = false)
      (hello : server.fault? false .hello = none) : Opening false [.hello]
  | encrypted (h : server.offers false "starttls" = true)
      (hello : server.fault? false .hello = none) (tls : server.fault? false .startTls = none)
      (again : server.fault? true .hello = none) : Opening true [.hello, .startTls, .hello]

/-- How the beginning of a session fails. -/
inductive OpeningFails : Fault → List Call → Prop
  | hello {fault : Fault} (h : server.fault? false .hello = some fault) :
      OpeningFails fault [.hello]
  | startTls {fault : Fault} (hello : server.fault? false .hello = none)
      (h : server.fault? false .startTls = some fault) : OpeningFails fault [.hello, .startTls]
  | again {fault : Fault} (hello : server.fault? false .hello = none)
      (tls : server.fault? false .startTls = none) (h : server.fault? true .hello = some fault) :
      OpeningFails fault [.hello, .startTls, .hello]

variable {server} in
theorem Opening.startsTls_eq {secured : Bool} {said : List Call} (h : Opening server secured said) :
    startsTls said = secured := by
  cases h <;> rfl

variable {calls} in
theorem secure_cases (plain : startsTls calls = false) :
    (∃ secured said, Opening server secured said ∧
      perform (secure server) calls = (.ok secured, calls ++ said)) ∨
    (∃ fault said, OpeningFails server fault said ∧
      perform (secure server) calls = (.error (.connection fault), calls ++ said)) := by
  have asked : startsTls [.startTls] = true := rfl
  have greeted : startsTls [.hello] = false := rfl
  unfold secure
  rw [perform_bind, perform_say, plain, Server.outcome]
  cases hello : server.fault? false Call.hello.kind with
  | some fault => exact .inr ⟨fault, _, .hello hello, rfl⟩
  | none =>
    simp only
    split
    · next h =>
      rw [perform_bind, perform_say, startsTls_append, plain, greeted, Server.outcome]
      cases tls : server.fault? (false || false) Call.startTls.kind with
      | some fault => exact .inr ⟨fault, _, .startTls hello tls, by simp⟩
      | none =>
        simp only
        rw [perform_bind, perform_say, startsTls_append, startsTls_append, plain, greeted, asked,
          Server.outcome]
        cases again : server.fault? (false || false || true) Call.hello.kind with
        | some fault => exact .inr ⟨fault, _, .again hello tls again, by simp⟩
        | none => exact .inl ⟨true, _, .encrypted h hello tls again, by simp⟩
    · next h =>
      exact .inl ⟨false, _, .plain (by simpa using h) hello, rfl⟩

/-- Credentials may be sent: the server takes them, they are for it, and nobody can listen. -/
def MayLogIn (secured : Bool) (c : Credentials) : Prop :=
  server.offers secured "auth" = true ∧ host = c.host ∧
    (secured = true ∨ Credentials.isLocal host = true)

theorem mayLogIn_of_refusal?_eq_none {secured : Bool} {c : Credentials}
    (offered : server.offers secured "auth" = true) (h : c.refusal? host secured = none) :
    MayLogIn server host secured c := by
  refine ⟨offered, Credentials.host_eq_of_refusal?_eq_none h, ?_⟩
  unfold Credentials.refusal? at h
  split at h
  · cases h
  · next hs => cases secured <;> simp_all

/-- What comes of the login: nothing is said, or the one thing that may be. -/
theorem authenticate_cases (secured : Bool) :
    (auth = none ∧
      perform (authenticate server host secured (auth.map .credentials)) calls = (.ok (), calls)) ∨
    (∃ c, auth = some c ∧
      ((∃ fault, perform (authenticate server host secured (auth.map .credentials)) calls =
          (.error (.delivery fault), calls)) ∨
        (MayLogIn server host secured c ∧
          perform (authenticate server host secured (auth.map .credentials)) calls =
            (server.outcome (startsTls calls) .login,
              calls ++ [.login c.username c.password])))) := by
  cases auth with
  | none => exact .inl ⟨rfl, rfl⟩
  | some c =>
    refine .inr ⟨c, rfl, ?_⟩
    simp only [authenticate, Option.map_some]
    split
    · next offered =>
      unfold logIn
      split
      · exact .inl ⟨_, rfl⟩
      · next h =>
        exact .inr ⟨mayLogIn_of_refusal?_eq_none server host offered h, perform_say _ _ _⟩
    · exact .inl ⟨_, rfl⟩

/-! ### Whole sessions -/

/-- The calls between connecting and leaving, with what comes of them. -/
inductive Conversed : List Call → Except Failure Unit → Prop
  | unopened {fault : Fault} {said : List Call} (h : OpeningFails server fault said) :
      Conversed said (.error (.connection fault))
  | refused {secured : Bool} {said : List Call} {c : Credentials} {fault : DeliveryFault}
      (h : Opening server secured said) (hc : auth = some c) :
      Conversed said (.error (.delivery fault))
  | loginFailed {secured : Bool} {said : List Call} {c : Credentials} {fault : Fault}
      (h : Opening server secured said) (hc : auth = some c)
      (may : MayLogIn server host secured c)
      (failed : server.fault? secured .login = some fault) :
      Conversed (said ++ [.login c.username c.password]) (.error (.connection fault))
  | anonymous {secured : Bool} {said : List Call} (h : Opening server secured said)
      (hc : auth = none) :
      Conversed (said ++ [.mail sender recipients message]) (server.outcome secured .mail)
  | loggedIn {secured : Bool} {said : List Call} {c : Credentials}
      (h : Opening server secured said) (hc : auth = some c)
      (may : MayLogIn server host secured c) (passed : server.fault? secured .login = none) :
      Conversed (said ++ [.login c.username c.password, .mail sender recipients message])
        (server.outcome secured .mail)

variable {calls} in
theorem converse_cases (plain : startsTls calls = false) :
    ∃ said outcome, Conversed server host auth sender recipients message said outcome ∧
      perform (converse server host (auth.map .credentials) sender recipients message) calls =
        (outcome, calls ++ said) := by
  unfold converse
  rcases secure_cases server plain with ⟨secured, said, h, run⟩ | ⟨fault, said, h, run⟩
  · have flag : startsTls (calls ++ said) = secured := by
      rw [startsTls_append, plain, h.startsTls_eq, Bool.false_or]
    rw [perform_bind_ok run]
    rcases authenticate_cases server host auth (calls ++ said) secured with
      ⟨hc, run⟩ | ⟨c, hc, ⟨fault, run⟩ | ⟨may, run⟩⟩
    · refine ⟨_, _, .anonymous h hc, ?_⟩
      rw [perform_bind_ok run, perform_say, List.append_assoc, flag]
      rfl
    · exact ⟨_, _, .refused h hc, perform_bind_error run⟩
    · rw [perform_bind, run, flag, Server.outcome]
      cases login : server.fault? secured .login with
      | some fault => exact ⟨_, _, .loginFailed h hc may login, by simp⟩
      | none =>
        have still : startsTls (calls ++ said ++ [.login c.username c.password]) = secured := by
          rw [startsTls_append, flag]
          exact Bool.or_false secured
        refine ⟨_, _, .loggedIn h hc may login, ?_⟩
        simp only
        rw [perform_say, still]
        simp [Call.kind]
  · exact ⟨_, _, .unopened h, perform_bind_error run⟩

/-- Leaving is said however the session ends, and a failure to leave counts for more than an
earlier one. -/
theorem perform_leaving {body : Session Unit} {said : List Call} {outcome : Except Failure Unit}
    (run : perform body calls = (outcome, calls ++ said)) :
    perform (leaving server body) calls =
      ((server.outcome (startsTls (calls ++ said)) .quit).bind fun _ => outcome,
        calls ++ (said ++ [.quit])) := by
  unfold leaving
  -- the body is run for its outcome, which is raised again after leaving
  have lifted : perform (ExceptT.lift (ExceptT.run body) : Session (Except Failure Unit)) calls =
      (.ok outcome, calls ++ said) := by
    rw [perform_lift]
    show (Except.ok (perform body calls).1, (perform body calls).2) = _
    rw [run]
  rw [perform_bind_ok lifted, perform_bind, perform_say, List.append_assoc]
  simp only [Call.kind]
  cases server.outcome (startsTls (calls ++ said)) .quit <;> cases outcome <;> rfl

/-- The calls of an attempt on a server whose name can be read, with what comes of them. -/
theorem session_cases (timeout : Timeout) (port : Int) :
    (∃ fault, server.fault? false .connect = some fault ∧
      perform (session server timeout host port (auth.map .credentials) sender recipients message)
        [] = (.error (.connection fault), [.connect host port timeout])) ∨
    (server.fault? false .connect = none ∧ ∃ said outcome,
      Conversed server host auth sender recipients message said outcome ∧
      perform (session server timeout host port (auth.map .credentials) sender recipients message)
        [] = ((server.outcome (startsTls said) .quit).bind fun _ => outcome,
          .connect host port timeout :: said ++ [.quit])) := by
  unfold session
  rw [perform_bind, perform_say, startsTls_nil, Server.outcome]
  simp only [Call.kind]
  cases connect : server.fault? false .connect with
  | some fault => exact .inl ⟨fault, rfl, rfl⟩
  | none =>
    have plain : startsTls [.connect host port timeout] = false := rfl
    obtain ⟨said, outcome, conversed, run⟩ := converse_cases server host auth sender recipients
      message plain
    have left := perform_leaving server _ run
    rw [startsTls_append, plain, Bool.false_or] at left
    exact .inr ⟨rfl, said, outcome, conversed, left⟩

theorem deliver_of_perform {timeout : Timeout} {name : Text} {port : Int}
    {outcome : Except Failure Unit} {said : List Call}
    (split : splitServer name = .ok (host, port))
    (run : perform (session server timeout host port (auth.map .credentials)
      (Envelope.bare sender) (recipients.map Envelope.bare) message) [] = (outcome, said)) :
    (deliver server timeout name (auth.map .credentials) sender recipients message).journal.calls =
        said ∧
      (deliver server timeout name (auth.map .credentials) sender recipients message).result =
        outcome.mapError (reported name) := by
  unfold perform at run
  simp only [deliver, split, run]
  cases outcome with
  | error failure => exact ⟨Journal.calls_map_call said, rfl⟩
  | ok _ =>
    rw [Journal.calls_append, Journal.calls_map_call, Journal.calls_map_log, List.append_nil]
    exact ⟨rfl, rfl⟩

/-- The calls of an attempt, with what comes of it. -/
theorem deliver_cases (timeout : Timeout) (name : Text) :
    let d := deliver server timeout name (auth.map .credentials) sender recipients message
    (∃ fault, splitServer name = .error fault ∧ d.journal.calls = [] ∧
      d.result = .error (.delivery (.server fault))) ∨
    ∃ host port, splitServer name = .ok (host, port) ∧
      ((∃ fault, server.fault? false .connect = some fault ∧
          d.journal.calls = [.connect host port timeout] ∧
          d.result = .error (reported name (.connection fault))) ∨
        (server.fault? false .connect = none ∧ ∃ said outcome,
          Conversed server host auth (Envelope.bare sender) (recipients.map Envelope.bare) message
            said outcome ∧
          d.journal.calls = .connect host port timeout :: said ++ [.quit] ∧
          d.result = ((server.outcome (startsTls said) .quit).bind fun _ => outcome).mapError
            (reported name))) := by
  intro d
  cases split : splitServer name with
  | error fault => exact .inl ⟨fault, rfl, by simp [d, deliver, split, Journal.calls]⟩
  | ok address =>
    obtain ⟨host, port⟩ := address
    refine .inr ⟨host, port, rfl, ?_⟩
    rcases session_cases server host auth (Envelope.bare sender) (recipients.map Envelope.bare)
      message timeout port with ⟨fault, failed, run⟩ | ⟨passed, said, outcome, conversed, run⟩
    · exact .inl ⟨fault, failed, deliver_of_perform _ _ _ _ _ _ split run⟩
    · exact .inr ⟨passed, said, outcome, conversed, deliver_of_perform _ _ _ _ _ _ split run⟩

end Steps

/-! ### The place of a call among the others -/

section Places

variable {server : Server} {host : Text} {port : Int} {timeout : Timeout}
  {auth : Option Credentials} {sender : Text} {recipients : List Text} {message : Octets}
  {said before after : List Call} {outcome : Except Failure Unit}

@[simp] theorem startsTls_connect (calls : List Call) :
    startsTls (.connect host port timeout :: calls) = startsTls calls := by
  simp [startsTls]

@[simp] theorem startsTls_quit (calls : List Call) :
    startsTls (calls ++ [.quit]) = startsTls calls := by
  simp [startsTls]

/-- Encryption has been asked for before the login and the message, or not at all. -/
theorem Opening.startsTls_append {secured : Bool} {opening : List Call}
    (h : Opening server secured opening) {more : List Call} (plain : .startTls ∉ more) :
    startsTls (opening ++ more) = secured := by
  rw [Smtp.startsTls_append, h.startsTls_eq]
  simp [startsTls, plain]

/-- Of some calls and a last one, each is that one or one of the others. -/
theorem concat_cases {calls before after : List Call} {last call : Call}
    (cut : calls ++ [last] = before ++ call :: after) :
    (before = calls ∧ call = last) ∨ ∃ after', calls = before ++ call :: after' := by
  rcases List.append_eq_append_iff.1 cut with ⟨l, rfl, hl⟩ | ⟨l, rfl, hl⟩
  · cases l with
    | nil => exact .inl ⟨by simp, (List.cons.inj hl).1.symm⟩
    | cons c l => simp at hl
  · cases l with
    | nil => exact .inl ⟨by simp, (List.cons.inj hl).1⟩
    | cons c l =>
      obtain ⟨rfl, -⟩ := List.cons.inj hl
      exact .inr ⟨l, rfl⟩

/-- What is said between connecting and leaving comes between the two. -/
theorem between_cases {call : Call}
    (cut : .connect host port timeout :: said ++ [.quit] = before ++ call :: after) :
    (before = [] ∧ call = .connect host port timeout) ∨
      ∃ before', before = .connect host port timeout :: before' ∧
        ((before' = said ∧ call = .quit) ∨ ∃ after', said = before' ++ call :: after') := by
  rcases before with _ | ⟨first, before⟩
  · exact .inl ⟨rfl, (List.cons.inj cut).1.symm⟩
  · obtain ⟨rfl, rest⟩ := List.cons.inj cut
    exact .inr ⟨before, rfl, concat_cases rest⟩

/-- A login and a message are said between connecting and leaving. -/
theorem within_of_cut {call : Call}
    (cut : .connect host port timeout :: said ++ [.quit] = before ++ call :: after)
    (kind : call.kind = .login ∨ call.kind = .mail) :
    ∃ before' after', before = .connect host port timeout :: before' ∧
      said = before' ++ call :: after' := by
  rcases between_cases cut with ⟨-, rfl⟩ | ⟨before', rfl, ⟨-, rfl⟩ | ⟨after', inside⟩⟩
  · simp [Call.kind] at kind
  · simp [Call.kind] at kind
  · exact ⟨before', after', rfl, inside⟩

theorem Opening.kind_of_mem {secured : Bool} {opening : List Call}
    (h : Opening server secured opening) :
    ∀ call ∈ opening, call.kind = .hello ∨ call.kind = .startTls := by
  cases h <;> simp [Call.kind]

theorem OpeningFails.kind_of_mem {fault : Fault} {opening : List Call}
    (h : OpeningFails server fault opening) :
    ∀ call ∈ opening, call.kind = .hello ∨ call.kind = .startTls := by
  cases h <;> simp [Call.kind]

/-- A login and a message are said behind the opening of a session. -/
theorem behind_of_cut {opening rest : List Call} {call : Call}
    (opens : ∀ call ∈ opening, call.kind = .hello ∨ call.kind = .startTls)
    (kind : call.kind = .login ∨ call.kind = .mail)
    (cut : opening ++ rest = before ++ call :: after) :
    ∃ before', before = opening ++ before' ∧ rest = before' ++ call :: after := by
  rcases List.append_eq_append_iff.1 cut with ⟨before', behind, left⟩ | ⟨more, opening_eq, left⟩
  · exact ⟨before', behind, left⟩
  · cases more with
    | nil => exact ⟨[], by rw [opening_eq, List.append_nil, List.append_nil], left.symm⟩
    | cons first more =>
      obtain ⟨rfl, -⟩ := List.cons.inj left
      rcases opens call (by simp [opening_eq]) with e | e <;> simp [e] at kind

/-- Before a login there is nothing but the opening of the session. -/
theorem Conversed.before_login {username password : Text}
    (h : Conversed server host auth sender recipients message said outcome)
    (cut : .connect host port timeout :: said ++ [.quit] =
      before ++ .login username password :: after) :
    ∃ c secured opening, auth = some c ∧ username = c.username ∧ password = c.password ∧
      Opening server secured opening ∧ MayLogIn server host secured c ∧
      before = .connect host port timeout :: opening := by
  have kind : (Call.login username password).kind = .login ∨
      (Call.login username password).kind = .mail := .inl rfl
  obtain ⟨before, after, rfl, inside⟩ := within_of_cut cut kind
  cases h with
  | unopened h =>
    obtain ⟨_, -, none⟩ := behind_of_cut h.kind_of_mem kind ((List.append_nil _).trans inside)
    simp at none
  | refused h hc =>
    obtain ⟨_, -, none⟩ := behind_of_cut h.kind_of_mem kind ((List.append_nil _).trans inside)
    simp at none
  | anonymous h hc =>
    obtain ⟨_, -, one⟩ := behind_of_cut h.kind_of_mem kind inside
    simp [List.cons_eq_append_iff] at one
  | loginFailed h hc may failed =>
    obtain ⟨before, rfl, one⟩ := behind_of_cut h.kind_of_mem kind inside
    obtain ⟨rfl, ⟨rfl, rfl⟩, -⟩ := by simpa [List.cons_eq_append_iff] using one
    exact ⟨_, _, _, hc, rfl, rfl, h, may, by rw [List.append_nil]⟩
  | loggedIn h hc may passed =>
    obtain ⟨before, rfl, two⟩ := behind_of_cut h.kind_of_mem kind inside
    obtain ⟨rfl, ⟨rfl, rfl⟩, -⟩ := by simpa [List.cons_eq_append_iff] using two
    exact ⟨_, _, _, hc, rfl, rfl, h, may, by rw [List.append_nil]⟩

/-- Before the message there are the opening of the session and the login, if there is something
to log in with. -/
theorem Conversed.before_mail {sender' : Text} {recipients' : List Text} {message' : Octets}
    (h : Conversed server host auth sender recipients message said outcome)
    (cut : .connect host port timeout :: said ++ [.quit] =
      before ++ .mail sender' recipients' message' :: after) :
    ∃ secured opening logins, Opening server secured opening ∧
      before = .connect host port timeout :: (opening ++ logins) ∧
      ((auth = none ∧ logins = []) ∨ ∃ c, auth = some c ∧ server.fault? secured .login = none ∧
        logins = [.login c.username c.password]) := by
  have kind : (Call.mail sender' recipients' message').kind = .login ∨
      (Call.mail sender' recipients' message').kind = .mail := .inr rfl
  obtain ⟨before, after, rfl, inside⟩ := within_of_cut cut kind
  cases h with
  | unopened h =>
    obtain ⟨_, -, none⟩ := behind_of_cut h.kind_of_mem kind ((List.append_nil _).trans inside)
    simp at none
  | refused h hc =>
    obtain ⟨_, -, none⟩ := behind_of_cut h.kind_of_mem kind ((List.append_nil _).trans inside)
    simp at none
  | loginFailed h hc may failed =>
    obtain ⟨_, -, one⟩ := behind_of_cut h.kind_of_mem kind inside
    simp [List.cons_eq_append_iff] at one
  | anonymous h hc =>
    obtain ⟨before, rfl, one⟩ := behind_of_cut h.kind_of_mem kind inside
    obtain ⟨rfl, -⟩ := by simpa [List.cons_eq_append_iff] using one
    exact ⟨_, _, [], h, rfl, .inl ⟨hc, rfl⟩⟩
  | loggedIn h hc may passed =>
    obtain ⟨before, rfl, two⟩ := behind_of_cut h.kind_of_mem kind inside
    obtain ⟨rfl, -⟩ : before = [.login _ _] ∧ _ := by simpa [List.cons_eq_append_iff] using two
    exact ⟨_, _, [.login _ _], h, rfl, .inr ⟨_, hc, passed, rfl⟩⟩

/-- A session comes to a good end exactly when the message is said and taken. -/
theorem Conversed.outcome_eq_ok_iff
    (h : Conversed server host auth sender recipients message said outcome) :
    outcome = .ok () ↔
      (∃ call ∈ said, call.kind = .mail) ∧ server.fault? (startsTls said) .mail = none := by
  have mail_iff (secured : Bool) :
      server.outcome secured .mail = .ok () ↔ server.fault? secured .mail = none := by
    unfold Server.outcome
    cases server.fault? secured .mail <;> simp
  cases h with
  | unopened h => cases h <;> simp [Call.kind]
  | refused h hc => cases h <;> simp [Call.kind]
  | loginFailed h hc may failed => cases h <;> simp [Call.kind]
  | anonymous h hc =>
    rw [h.startsTls_append (by simp), mail_iff]
    simp [Call.kind]
  | @loggedIn _ opening c h hc may passed =>
    have taken : ∃ call ∈ opening ++ [.login c.username c.password,
        .mail sender recipients message], call.kind = .mail :=
      ⟨.mail sender recipients message, by simp, rfl⟩
    rw [h.startsTls_append (by simp), mail_iff, and_iff_right taken]

/-- How often a call of some kind is said. -/
def timesSaid (kind : CallKind) (calls : List Call) : Nat :=
  calls.countP fun call => call.kind = kind

/-- Nothing but greetings is said twice. -/
theorem Conversed.timesSaid_le_one {kind : CallKind} (hk : kind ≠ .hello)
    (h : Conversed server host auth sender recipients message said outcome) :
    timesSaid kind (.connect host port timeout :: said ++ [.quit]) ≤ 1 := by
  unfold timesSaid
  cases h with
  | unopened h => cases h <;> cases kind <;> simp_all [Call.kind]
  | refused h hc => cases h <;> cases kind <;> simp_all [Call.kind]
  | loginFailed h hc => cases h <;> cases kind <;> simp_all [Call.kind]
  | anonymous h hc => cases h <;> cases kind <;> simp_all [Call.kind]
  | loggedIn h hc => cases h <;> cases kind <;> simp_all [Call.kind]

/-- Leaving is not said before the end. -/
theorem Conversed.quit_not_mem
    (h : Conversed server host auth sender recipients message said outcome) : .quit ∉ said := by
  cases h with
  | unopened h => cases h <;> simp
  | refused h hc => cases h <;> simp
  | loginFailed h hc => cases h <;> simp
  | anonymous h hc => cases h <;> simp
  | loggedIn h hc => cases h <;> simp

/-- None of some calls fails, each being said after those before it. -/
def Server.Passes (server : Server) (calls : List Call) : Prop :=
  ∀ before call after, calls = before ++ call :: after → server.faultAfter? before call = none

theorem Server.passes_nil : server.Passes [] := fun before call after cut => by
  cases before <;> cases cut

theorem Server.Passes.concat {calls : List Call} (passes : server.Passes calls) (last : Call)
    (passed : server.fault? (startsTls calls) last.kind = none) :
    server.Passes (calls ++ [last]) := by
  intro before call after cut
  rcases concat_cases cut with ⟨rfl, rfl⟩ | ⟨after', cut⟩
  · exact passed
  · exact passes before call after' cut

theorem Opening.passes {secured : Bool} {opening : List Call}
    (h : Opening server secured opening) : server.Passes opening := by
  cases h with
  | plain hs hello => exact Server.passes_nil.concat .hello hello
  | encrypted hs hello tls again =>
    exact ((Server.passes_nil.concat .hello hello).concat .startTls tls).concat .hello again

/-- Some calls come to a failure of the last, none before it failing. -/
def Server.FailsAtLast (server : Server) (calls : List Call) (fault : Fault) : Prop :=
  ∃ before last, calls = before ++ [last] ∧ server.Passes before ∧
    server.faultAfter? before last = some fault

theorem OpeningFails.failsAtLast {fault : Fault} {opening : List Call}
    (h : OpeningFails server fault opening) : server.FailsAtLast opening fault := by
  cases h with
  | hello failed => exact ⟨[], .hello, rfl, Server.passes_nil, failed⟩
  | startTls hello failed =>
    exact ⟨[.hello], .startTls, rfl, Server.passes_nil.concat .hello hello, failed⟩
  | again hello tls failed =>
    exact ⟨[.hello, .startTls], .hello, rfl,
      (Server.passes_nil.concat .hello hello).concat .startTls tls, failed⟩

/-- If nothing failed before the last call, what comes of that one decides. -/
theorem Server.outcome_cases (passes : server.Passes before) (last : Call) :
    (server.outcome (startsTls before) last.kind = .ok () ∧ server.Passes (before ++ [last])) ∨
    ∃ fault, server.outcome (startsTls before) last.kind = .error (.connection fault) ∧
      server.FailsAtLast (before ++ [last]) fault := by
  unfold Server.outcome
  cases e : server.fault? (startsTls before) last.kind with
  | none => exact .inl ⟨rfl, passes.concat last e⟩
  | some fault => exact .inr ⟨fault, rfl, before, last, rfl, passes, e⟩

/-- A session fails at its last call, or because credentials are not sent. -/
theorem Conversed.failure_cases
    (h : Conversed server host auth sender recipients message said outcome) :
    (outcome = .ok () ∧ server.Passes said) ∨
    (∃ fault, outcome = .error (.connection fault) ∧ server.FailsAtLast said fault) ∨
    (server.Passes said ∧ ∃ fault, outcome = .error (.delivery fault)) := by
  cases h with
  | unopened h => exact .inr (.inl ⟨_, rfl, h.failsAtLast⟩)
  | refused h hc => exact .inr (.inr ⟨h.passes, _, rfl⟩)
  | loginFailed h hc may failed =>
    exact .inr (.inl ⟨_, rfl, _, _, rfl, h.passes, by
      rwa [Server.faultAfter?, h.startsTls_eq]⟩)
  | anonymous h hc =>
    rw [← or_assoc, ← h.startsTls_eq]
    exact .inl (Server.outcome_cases h.passes (.mail sender recipients message))
  | @loggedIn _ opening c h hc may passed =>
    have passes : server.Passes (opening ++ [.login c.username c.password]) :=
      h.passes.concat _ (by rwa [h.startsTls_eq])
    have plain : Call.startTls ∉ [Call.login c.username c.password] := by simp
    have flag := h.startsTls_append plain
    rw [List.append_cons, ← or_assoc, ← flag]
    exact .inl (Server.outcome_cases passes (.mail sender recipients message))

/-- Before a login and before the message, there is the whole opening of the session. -/
theorem Conversed.before_guarded {call : Call}
    (h : Conversed server host auth sender recipients message said outcome)
    (cut : .connect host port timeout :: said ++ [.quit] = before ++ call :: after)
    (kind : call.kind = .login ∨ call.kind = .mail) :
    ∃ secured opening rest, Opening server secured opening ∧
      before = .connect host port timeout :: (opening ++ rest) := by
  cases call with
  | login username password =>
    obtain ⟨_, secured, opening, -, -, -, opens, -, rfl⟩ := h.before_login cut
    exact ⟨secured, opening, [], opens, by simp⟩
  | mail =>
    obtain ⟨secured, opening, logins, opens, rfl, -⟩ := h.before_mail cut
    exact ⟨secured, opening, logins, opens, rfl⟩
  | _ => simp [Call.kind] at kind

end Places

/-! ### Safety -/

/-- What the calls of an attempt to hand over a message, and what comes of it, have to keep to. -/
structure SafeDelivery (server : Server) (name : Text) (auth : Option Credentials)
    (calls : List Call) (result : Except Failure Unit) : Prop where
  /-- Nothing is tried again. -/
  once : ∀ kind, kind ≠ .hello → timesSaid kind calls ≤ 1
  /-- Credentials go to the host that they are for, which takes them at that time, and over an
  encrypted connection, on which the server has been greeted anew, or to this machine. -/
  login_guarded : ∀ before username password after,
    calls = before ++ .login username password :: after →
    ∃ c port, auth = some c ∧ username = c.username ∧ password = c.password ∧
      splitServer name = .ok (c.host, port) ∧
      server.offers (startsTls before) "auth" = true ∧
      (([.hello, .startTls, .hello] <:+ before ∧ server.fault? false .startTls = none ∧
          server.fault? true .hello = none) ∨
        Credentials.isLocal c.host = true)
  /-- Where encryption is offered, nothing that matters is said before it. -/
  encrypted_first : server.offers false "starttls" = true → ∀ before call after,
    calls = before ++ call :: after → call.kind = .login ∨ call.kind = .mail →
    .startTls ∈ before ∧ server.fault? false .startTls = none
  /-- With something to log in with, the message follows a login with just that. -/
  mail_after_login : ∀ c, auth = some c → ∀ before sender recipients message after,
    calls = before ++ .mail sender recipients message :: after →
    .login c.username c.password ∈ before ∧ server.fault? (startsTls before) .login = none
  /-- The attempt succeeds exactly when the message is taken and nothing fails on leaving. -/
  ok_iff : result = .ok () ↔
    (∃ call ∈ calls, call.kind = .mail) ∧ server.fault? (startsTls calls) .mail = none ∧
      server.fault? (startsTls calls) .quit = none
  /-- A failure that is a matter of delivery is reported as a failed delivery, and a failure on
  leaving takes the place of an earlier one. -/
  failure_reported : ∀ before call after, calls = before ++ call :: after →
    ∀ fault, server.faultAfter? before call = some fault → fault.isDelivery = true →
    call.kind = .quit ∨ server.fault? (startsTls calls) .quit = none →
    result = .error (.delivery (.connection name fault))
  /-- No failure that is a matter of delivery comes out in any other way. -/
  no_escape : ∀ fault, result = .error (.connection fault) → fault.isDelivery = false
  /-- After connecting, leaving is the last thing said, and it is said once. -/
  quit_last : (∃ call ∈ calls, call.kind = .connect) → server.fault? false .connect = none →
    ∃ before, calls = before ++ [.quit] ∧ .quit ∉ before

section Attempts

variable {server : Server} {name host : Text} {port : Int} {timeout : Timeout}
  {auth : Option Credentials} {sender : Text} {recipients : List Text} {message : Octets}
  {said : List Call} {outcome : Except Failure Unit}

theorem isDelivery_of_reported {failure : Failure} {fault : Fault}
    (h : reported name failure = .connection fault) : fault.isDelivery = false := by
  cases failure with
  | connection f =>
    simp only [reported] at h
    split at h
    · cases h
    · next hf => cases h; simpa using hf
  | _ => cases h

theorem mapError_reported_of_isDelivery {fault : Fault} (h : fault.isDelivery = true) :
    (Except.error (.connection fault) : Except Failure Unit).mapError (reported name) =
      .error (.delivery (.connection name fault)) := by
  simp [reported, h]

/-- A failure that is a matter of delivery is what an attempt comes to, unless leaving fails. -/
theorem Conversed.reported_of_fault (passed : server.fault? false .connect = none)
    (h : Conversed server host auth sender recipients message said outcome)
    {before after : List Call} {call : Call}
    (cut : .connect host port timeout :: said ++ [.quit] = before ++ call :: after) {fault : Fault}
    (hf : server.faultAfter? before call = some fault) (hd : fault.isDelivery = true)
    (last : call.kind = .quit ∨ server.fault? (startsTls said) .quit = none) :
    ((server.outcome (startsTls said) .quit).bind fun _ => outcome).mapError (reported name) =
      .error (.delivery (.connection name fault)) := by
  unfold Server.outcome
  rcases between_cases cut with ⟨rfl, rfl⟩ | ⟨before, rfl, ⟨rfl, rfl⟩ | ⟨after, rfl⟩⟩
  · simp [Server.faultAfter?, Call.kind, passed] at hf
  · rw [Server.faultAfter?, startsTls_connect] at hf
    simp only [Call.kind] at hf
    rw [hf]
    exact mapError_reported_of_isDelivery hd
  · -- the call is one of the conversation, of which only the last can have failed
    have leaves : server.fault? (startsTls (before ++ call :: after)) .quit = none := by
      refine last.resolve_left fun kind => h.quit_not_mem ?_
      cases call <;> simp [Call.kind] at kind ⊢
    rw [leaves]
    have hf : server.faultAfter? before call = some fault := by
      rwa [Server.faultAfter?, startsTls_connect] at hf
    rcases h.failure_cases with ⟨-, passes⟩ | ⟨f, rfl, init, final, cut, passes, failed⟩ |
      ⟨passes, -⟩
    · cases hf.symm.trans (passes before call after rfl)
    · have same : some fault = some f := by
        rcases concat_cases cut.symm with ⟨rfl, rfl⟩ | ⟨after', cut⟩
        · exact hf.symm.trans failed
        · cases hf.symm.trans (passes before call after' cut)
      cases same
      exact mapError_reported_of_isDelivery hd
    · cases hf.symm.trans (passes before call after rfl)

/-- An attempt on a server whose name cannot be read says nothing. -/
theorem safeDelivery_of_noServer {fault : ServerFault} :
    SafeDelivery server name auth [] (.error (.delivery (.server fault))) := by
  constructor <;> simp [timesSaid]

/-- An attempt that does not get through to the server says nothing else. -/
theorem safeDelivery_of_noConnection {fault : Fault}
    (failed : server.fault? false .connect = some fault) :
    SafeDelivery server name auth [.connect host port timeout]
      (.error (reported name (.connection fault))) where
  once kind hk := by cases kind <;> simp [timesSaid, Call.kind]
  login_guarded := by simp [List.cons_eq_append_iff]
  encrypted_first := by simp +contextual [List.cons_eq_append_iff, Call.kind]
  mail_after_login := by simp [List.cons_eq_append_iff]
  ok_iff := by simp [Call.kind]
  failure_reported before call after cut fault' hf hd _ := by
    obtain ⟨rfl, rfl, rfl⟩ : before = [] ∧ call = .connect host port timeout ∧ after = [] := by
      simpa [List.append_eq_singleton_iff] using cut.symm
    cases failed.symm.trans hf
    simp [reported, hd]
  no_escape fault h := isDelivery_of_reported (by simpa using h)
  quit_last := by simp [failed]

/-- An attempt that gets through to the server keeps to everything. -/
theorem safeDelivery_of_conversed (split : splitServer name = .ok (host, port))
    (passed : server.fault? false .connect = none)
    (h : Conversed server host auth sender recipients message said outcome) :
    SafeDelivery server name auth (.connect host port timeout :: said ++ [.quit])
      (((server.outcome (startsTls said) .quit).bind fun _ => outcome).mapError
        (reported name)) where
  once kind hk := h.timesSaid_le_one hk
  login_guarded before username password after cut := by
    obtain ⟨c, secured, opening, hc, rfl, rfl, opens, ⟨offered, rfl, guarded⟩, rfl⟩ :=
      h.before_login cut
    refine ⟨c, port, hc, rfl, rfl, split, ?_⟩
    rw [startsTls_connect, opens.startsTls_eq]
    cases opens with
    | plain hs hello =>
      exact ⟨by simpa using offered, .inr (by simpa using guarded)⟩
    | encrypted hs hello tls again =>
      exact ⟨by simpa using offered, .inl ⟨List.suffix_cons _ _, tls, again⟩⟩
  encrypted_first offered before call after cut kind := by
    obtain ⟨secured, opening, rest, opens, rfl⟩ := h.before_guarded cut kind
    cases opens with
    | plain hs hello => simp [hs] at offered
    | encrypted hs hello tls => exact ⟨by simp, tls⟩
  mail_after_login c hc before sender recipients message after cut := by
    obtain ⟨secured, opening, logins, opens, rfl, ⟨none, -⟩ | ⟨c', hc', passed, rfl⟩⟩ :=
      h.before_mail cut
    · simp [none] at hc
    · cases hc.symm.trans hc'
      rw [startsTls_connect, opens.startsTls_append (by simp)]
      exact ⟨by simp, passed⟩
  ok_iff := by
    have quit_iff : ((server.outcome (startsTls said) .quit).bind fun _ => outcome).mapError
        (reported name) = .ok () ↔
        outcome = .ok () ∧ server.fault? (startsTls said) .quit = none := by
      unfold Server.outcome
      cases server.fault? (startsTls said) .quit <;> cases outcome <;>
        simp [Except.bind]
    rw [quit_iff, h.outcome_eq_ok_iff, List.cons_append, startsTls_connect, startsTls_quit]
    simp [Call.kind, and_assoc]
  failure_reported before call after cut fault hf hd last := by
    rw [List.cons_append, startsTls_connect, startsTls_quit] at last
    exact h.reported_of_fault passed cut hf hd last
  no_escape fault h := by
    cases hr : (server.outcome (startsTls said) .quit).bind fun _ => outcome with
    | ok => simp [hr] at h
    | error failure =>
      simp only [hr, mapError_error, Except.error.injEq] at h
      exact isDelivery_of_reported h
  quit_last _ _ := ⟨_, rfl, by simpa using h.quit_not_mem⟩

/-- **Every attempt to hand over a message is safe**, whatever the server offers and wherever it
fails. -/
theorem safeDelivery_deliver (server : Server) (timeout : Timeout) (name : Text)
    (auth : Option Credentials) (sender : Text) (recipients : List Text) (message : Octets) :
    SafeDelivery server name auth
      (deliver server timeout name (auth.map .credentials) sender recipients message).journal.calls
      (deliver server timeout name (auth.map .credentials) sender recipients message).result := by
  rcases deliver_cases server auth sender recipients message timeout name with
    ⟨fault, split, calls, result⟩ | ⟨host, port, split, ⟨fault, failed, calls, result⟩ |
      ⟨passed, said, outcome, conversed, calls, result⟩⟩ <;> rw [calls, result]
  · exact safeDelivery_of_noServer
  · exact safeDelivery_of_noConnection failed
  · exact safeDelivery_of_conversed split passed conversed

end Attempts

end Mailroom.Smtp
