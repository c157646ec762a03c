import Mathlib.Control.Monad.Basic
import Mailroom.Proofs.Address.Clean
import Mailroom.Proofs.Address.Envelope
import Mailroom.Proofs.Address.Listing
import Mailroom.Proofs.Message.Reachable
import Mailroom.Proofs.Smtp.Safety

/-!
# The envelope that reaches the server

An envelope is made of the addresses of the header, but the mailer reads each of them once more
before it is said to the server.

* `Smtp.Session.Says`: all that a step says is of one kind;
* `Smtp.isUnder_of_mem_calls`: an attempt says the message under one envelope only;
* `Address.Parts.IsKept`: the addresses that are left as they are;
* `Email.Reachable.mail_envelope`: what is said of a message that has come about.
-/

namespace Mailroom

theorem Journal.mem_calls_iff {journal : Journal} {call : Smtp.Call} :
    call ∈ journal.calls ↔ .call call ∈ journal := by
  unfold calls
  rw [List.mem_filterMap]
  constructor
  · rintro ⟨event, hevent, same⟩
    cases event <;> cases same
    exact hevent
  · exact fun h => ⟨_, h, rfl⟩

namespace Smtp

/-! ### What a session says -/

namespace Session

variable {α β : Type}

/-- All that a step says is of one kind, whatever was said before. -/
def Says (P : Call → Prop) (step : Session α) : Prop :=
  ∀ calls, ∃ said, (perform step calls).2 = calls ++ said ∧ ∀ call ∈ said, P call

variable {P : Call → Prop}

theorem says_pure (a : α) : Says P (pure a : Session α) := fun calls =>
  ⟨[], (List.append_nil calls).symm, fun _ h => (by cases h)⟩

theorem says_throw (failure : Failure) : Says P (throw failure : Session α) := fun calls =>
  ⟨[], (List.append_nil calls).symm, fun _ h => (by cases h)⟩

theorem says_say (server : Server) {call : Call} (h : P call) : Says P (say server call) :=
  fun calls => ⟨[call], by rw [perform_say], List.forall_mem_singleton.2 h⟩

theorem Says.bind {step : Session α} {next : α → Session β} (h : Says P step)
    (hnext : ∀ a, Says P (next a)) : Says P (step >>= next) := by
  intro calls
  obtain ⟨said, e, all⟩ := h calls
  rw [perform_bind]
  rcases hp : perform step calls with ⟨failure | a, calls'⟩ <;> rw [hp] at e <;> dsimp only at e ⊢
  · exact ⟨said, e, all⟩
  · obtain ⟨more, e', all'⟩ := hnext a calls'
    exact ⟨said ++ more, by rw [e', e, List.append_assoc],
      List.forall_mem_append.2 ⟨all, all'⟩⟩

end Session

open Session

section Sessions

variable {P : Call → Prop} (server : Server) (host : Text)

theorem says_secure (hello : P .hello) (tls : P .startTls) : Says P (secure server) := by
  refine (says_say server hello).bind fun _ => ?_
  split
  · exact (says_say server tls).bind fun _ => (says_say server hello).bind fun _ => says_pure true
  · exact says_pure false

theorem says_authenticate (login : ∀ username password, P (.login username password))
    (secured : Bool) (auth : Option Auth) : Says P (authenticate server host secured auth) := by
  unfold authenticate
  split
  · exact says_pure ()
  split
  · split
    · unfold logIn
      split
      · exact says_throw _
      · exact says_say server (login _ _)
    · exact says_throw _
  · exact says_throw _

theorem says_leaving {body : Session Unit} (h : Says P body) (quit : P .quit) :
    Says P (leaving server body) := by
  intro calls
  obtain ⟨said, e, all⟩ := h calls
  have run : perform body calls = ((perform body calls).1, calls ++ said) := by rw [← e]
  exact ⟨said ++ [.quit], by rw [perform_leaving server calls run],
    List.forall_mem_append.2 ⟨all, List.forall_mem_singleton.2 quit⟩⟩

/-- A call hands over nothing but one message under one envelope. -/
def Call.IsUnder (sender : Text) (recipients : List Text) (message : Octets) (call : Call) : Prop :=
  call.kind = .mail → call = .mail sender recipients message

theorem says_session (timeout : Timeout) (port : Int) (auth : Option Auth) (sender : Text)
    (recipients : List Text) (message : Octets) :
    Says (Call.IsUnder sender recipients message)
      (session server timeout host port auth sender recipients message) := by
  -- of all calls only the last before leaving hands a message over, so the others are under any
  have other (call : Call) (h : call.kind ≠ .mail) : call.IsUnder sender recipients message :=
    fun kind => absurd kind h
  refine (says_say server (other (.connect host port timeout) nofun)).bind fun _ =>
    says_leaving server ?_ (other .quit nofun)
  exact (says_secure server (other .hello nofun) (other .startTls nofun)).bind fun secured =>
    (says_authenticate server host (fun username password => other (.login username password) nofun)
      secured auth).bind fun _ => says_say server fun _ => rfl

end Sessions

section Journals

variable {server : Server} {timeout : Timeout} {name : Text} {auth : Option Auth} {sender : Text}
  {recipients : List Text} {message : Octets}

/-- An attempt puts into the journal what its session says, and the recipients that are refused. -/
theorem mem_journal_deliver_cases {event : Event}
    (h : event ∈ (deliver server timeout name auth sender recipients message).journal) :
    (∃ host port call, event = .call call ∧
      call ∈ (perform (session server timeout host port auth (Envelope.bare sender)
        (recipients.map Envelope.bare) message) []).2) ∨
    ∃ entry, event = .log ⟨.warning, some (refusedText name entry)⟩ := by
  unfold deliver at h
  rcases splits : splitServer name with fault | ⟨host, port⟩ <;> rw [splits] at h
  · cases h
  · dsimp only at h
    rw [show (ExceptT.run (session server timeout host port auth (Envelope.bare sender)
      (recipients.map Envelope.bare) message)).run [] = perform (session server timeout host port
        auth (Envelope.bare sender) (recipients.map Envelope.bare) message) [] from rfl] at h
    rcases hp : perform (session server timeout host port auth (Envelope.bare sender)
      (recipients.map Envelope.bare) message) [] with ⟨failure | _, calls⟩ <;> rw [hp] at h
    · obtain ⟨call, hcall, rfl⟩ := List.mem_map.1 h
      exact .inl ⟨host, port, call, rfl, by rw [hp]; exact hcall⟩
    · rcases List.mem_append.1 h with h | h
      · obtain ⟨call, hcall, rfl⟩ := List.mem_map.1 h
        exact .inl ⟨host, port, call, rfl, by rw [hp]; exact hcall⟩
      · obtain ⟨entry, -, rfl⟩ := List.mem_map.1 h
        exact .inr ⟨entry, rfl⟩

/-- An attempt says the message under one envelope only, that of the addresses read once more. -/
theorem isUnder_of_mem_calls {call : Call}
    (h : call ∈ (deliver server timeout name auth sender recipients message).journal.calls) :
    call.IsUnder (Envelope.bare sender) (recipients.map Envelope.bare) message := by
  rcases mem_journal_deliver_cases (Journal.mem_calls_iff.1 h) with
    ⟨host, port, call', same, said⟩ | ⟨entry, same⟩
  · cases same
    obtain ⟨calls, e, all⟩ := says_session server host timeout port auth (Envelope.bare sender)
      (recipients.map Envelope.bare) message []
    rw [e, List.nil_append] at said
    exact all call said
  · cases same

end Journals

end Smtp

/-! ### Addresses that are left as they are -/

namespace Address.Parts

/-- An address is left as it is when it is read once more for the envelope: it has no opening
bracket, no run of blanks between the dots of a local part without quotation marks, and no mark but
dots in its domain. -/
def IsKept (p : Address.Parts) : Prop :=
  CodePoint.ofChar '[' ∉ p.spec ∧
    (p.localPart.any Lexeme.endsDottedAtom = true ∨ Envelope.HasNoBlankRun p.localPart) ∧
    ∀ c ∈ p.domain, Envelope.isMark c = true → c = CodePoint.ofChar '.'

namespace IsWhole

variable {p : Address.Parts}

theorem isLineBreak_localPart (h : p.IsWhole) :
    ∀ c ∈ p.localPart, Envelope.isLineBreak c = false := fun c hc =>
  Bool.eq_false_iff.2 <| List.any_eq_false.1 h.unbroken c <|
    List.mem_append_left _ (List.mem_append_right _ hc)

theorem bare_spec_eq_iff (h : p.IsWhole) : Envelope.bare p.spec = p.spec ↔ p.IsKept := by
  rw [IsKept, spec_of_domain h.domain]
  exact Envelope.bare_eq_self_iff h.localPart h.isLineBreak_localPart h.domain h.unblank

theorem bare_spec_of_literal (h : p.IsWhole) {d : Text}
    (literal : p.domain = CodePoint.ofChar '[' :: d) : Envelope.bare p.spec = [] := by
  rw [spec_of_domain h.domain, literal]
  exact Envelope.bare_literal h.localPart h.isLineBreak_localPart d

theorem bare_spec_of_plain (h : p.IsWhole) (brackets : CodePoint.ofChar '[' ∉ p.spec)
    (plain : ∀ c ∈ p.domain, Envelope.isMark c = true → c = CodePoint.ofChar '.') :
    ∃ local' : Text, Envelope.bare p.spec = local' ++ CodePoint.ofChar '@' :: p.domain := by
  rw [spec_of_domain h.domain] at brackets ⊢
  obtain ⟨local', -, -, e⟩ := Envelope.bare_plain h.localPart h.isLineBreak_localPart h.domain
    h.unblank brackets plain
  exact ⟨local', e⟩

end IsWhole

end Address.Parts

/-! ### Messages that have come about -/

namespace Email

/-- The addresses of a message that an envelope is made of, in their parts: the sender, and the
recipients in the order of their fields. -/
structure HasEnvelope (e : Email) (first : Address.Parts) (primary cc bcc : List Address.Parts) :
    Prop where
  sender_eq : e.sender = .ok (some first.address)
  primary_eq : e.addresses "to" = .ok (primary.map (·.address))
  cc_eq : e.addresses "cc" = .ok (cc.map (·.address))
  bcc_eq : e.addresses "bcc" = .ok (bcc.map (·.address))
  whole : ∀ p ∈ first :: (primary ++ cc ++ bcc), p.IsWhole

/-- What is handed on has the addresses of the message as its envelope. -/
theorem hasEnvelope_of_dispatch? {e : Email} {host : Text} {dispatch : Dispatch}
    {text : Option Text}
    (sent : dispatch? e.header e.message e.auth host = .ok (dispatch, text)) :
    ∃ first primary cc bcc, e.HasEnvelope first primary cc bcc ∧ dispatch.sender = first.spec ∧
      dispatch.recipients = (primary ++ cc ++ bcc).map (·.spec) := by
  obtain ⟨sender, recipients, envelope, -, whole⟩ := dispatch?_eq_ok sent
  obtain ⟨senders, primary, cc, bcc, hs, ht, hc, hb, -, rfl⟩ := envelope?_eq_ok_iff.1 envelope
  obtain ⟨ps, same, wholeFrom⟩ := Header.exists_parts_of_addresses hs
  obtain ⟨primary, rfl, wholeTo⟩ := Header.exists_parts_of_addresses ht
  obtain ⟨cc, rfl, wholeCc⟩ := Header.exists_parts_of_addresses hc
  obtain ⟨bcc, rfl, wholeBcc⟩ := Header.exists_parts_of_addresses hb
  obtain ⟨first, rest, rfl⟩ : ∃ first rest, ps = first :: rest := by
    cases ps with
    | nil => cases same
    | cons first rest => exact ⟨first, rest, rfl⟩
  obtain ⟨rfl, rfl⟩ := List.cons.inj same
  refine ⟨first, primary, cc, bcc, ⟨sender_eq_ok_some_iff.2 ⟨_, hs⟩,
    addresses_eq_ok_iff.2 ht, addresses_eq_ok_iff.2 hc, addresses_eq_ok_iff.2 hb, ?_⟩,
    by rw [whole]; rfl, ?_⟩
  · rw [List.forall_mem_cons, List.forall_mem_append, List.forall_mem_append]
    exact ⟨wholeFrom first List.mem_cons_self, ⟨wholeTo, wholeCc⟩, wholeBcc⟩
  · rw [whole]
    simp only [AddressList.addresses, List.map_append, List.map_map]
    rfl

/-- What is said to a server of a message that has come about: if the message is handed over at all,
then under the addresses of its header, in the same order and number, each read once more; and of
these exactly the ones that are kept are left as they are. One with a domain in brackets is lost. -/
theorem Reachable.mail_envelope {e : Email} (reached : e.Reachable) (server : Smtp.Server)
    (timeout : Smtp.Timeout) (host : Text) (journal : Journal) :
    ∃ said, (perform (Work.send (Smtp.mailer server timeout) host) ⟨e, journal⟩).2.journal.calls =
        journal.calls ++ said ∧
      ∀ sender recipients message, Smtp.Call.mail sender recipients message ∈ said →
        ∃ first primary cc bcc, e.HasEnvelope first primary cc bcc ∧
          sender = Envelope.bare first.spec ∧
          recipients = (primary ++ cc ++ bcc).map (fun p => Envelope.bare p.spec) ∧
          (sender = first.spec ↔ first.IsKept) ∧
          (recipients = (primary ++ cc ++ bcc).map (·.spec) ↔
            ∀ p ∈ primary ++ cc ++ bcc, p.IsKept) ∧
          ∀ p ∈ first :: (primary ++ cc ++ bcc),
            (∀ d, p.domain = CodePoint.ofChar '[' :: d → Envelope.bare p.spec = []) ∧
            (CodePoint.ofChar '[' ∉ p.spec →
              (∀ c ∈ p.domain, Envelope.isMark c = true → c = CodePoint.ofChar '.') →
              ∃ local' : Text,
                Envelope.bare p.spec = local' ++ CodePoint.ofChar '@' :: p.domain) := by
  rcases reached.journal_send (Smtp.mailer server timeout) host journal with
    ⟨failure, -, same⟩ | ⟨dispatch, text, sent, whole⟩
  · exact ⟨[], by rw [same, List.append_nil], fun _ _ _ h => by cases h⟩
  refine ⟨(Smtp.mailer server timeout dispatch).journal.calls, ?_,
    fun sender recipients message h => ?_⟩
  · rw [whole, Journal.calls_append, Journal.calls_append]
    simp [Journal.calls]
  obtain ⟨first, primary, cc, bcc, envelope, hsender, hrecipients⟩ := hasEnvelope_of_dispatch? sent
  have under := Smtp.isUnder_of_mem_calls h rfl
  rw [hsender, hrecipients, List.map_map, Smtp.Call.mail.injEq] at under
  obtain ⟨rfl, rfl, -⟩ := under
  have all := envelope.whole
  rw [List.forall_mem_cons] at all
  refine ⟨first, primary, cc, bcc, envelope, rfl, rfl, all.1.bare_spec_eq_iff, ?_, fun p hp => ?_⟩
  · rw [List.map_inj_left]
    exact forall₂_congr fun p hp => (all.2 p hp).bare_spec_eq_iff
  · exact ⟨fun d => (envelope.whole p hp).bare_spec_of_literal,
      (envelope.whole p hp).bare_spec_of_plain⟩

/-- A message from a sender in quotation marks to one in brackets and to two others. -/
def mixed : Email :=
  .ofParts ⟨[⟨"From", "\"a b\"@example.org", []⟩, ⟨"To", "x@[10.0.0.1], y@example.org", []⟩,
    ⟨"Bcc", "z@example.org", []⟩], false, 3⟩ [0x68, 0x69]

/-- A server that offers nothing and takes everything. -/
def plainServer : Smtp.Server := ⟨[], none, [], [], none⟩

/-- The sender of such a message is kept, but not all of its recipients are. -/
theorem mixed_mail_envelope :
    Email.read false (Utf8.encodeDropping ("From: \"a b\"@example.org\n" ++
        "To: x@[10.0.0.1], y@example.org\nBcc: z@example.org\n\nhi\n")) = .ok mixed ∧
      ∃ first primary cc bcc, mixed.HasEnvelope first primary cc bcc ∧ first.IsKept ∧
        ¬ ∀ p ∈ primary ++ cc ++ bcc, p.IsKept := by
  have read : Email.read false (Utf8.encodeDropping ("From: \"a b\"@example.org\n" ++
      "To: x@[10.0.0.1], y@example.org\nBcc: z@example.org\n\nhi\n")) = .ok mixed := by
    decide +kernel
  refine ⟨read, ?_⟩
  obtain ⟨said, calls, all⟩ := (reachable_read read).mail_envelope plainServer .standard "h" []
  obtain ⟨message, spoken⟩ : ∃ message, (perform (Work.send (Smtp.mailer plainServer .standard)
      "h") ⟨mixed, []⟩).2.journal.calls = [.connect "h" 25 .standard, .hello,
        .mail "\"a b\"@example.org" ["", "y@example.org", "z@example.org"] message, .quit] :=
    ⟨Utf8.encodeDropping ("From: <\"a b\"@example.org>\r\n" ++
      "To: <x@[10.0.0.1]>,<y@example.org>\r\n\r\nhi"), by decide +kernel⟩
  rw [calls] at spoken
  obtain ⟨first, primary, cc, bcc, envelope, -, -, kept, keptAll, -⟩ :=
    all _ _ message (by rw [show said = _ from spoken]; exact .tail _ (.tail _ (.head _)))
  have sender : mixed.sender = .ok (some ⟨"\"a b\"@example.org", []⟩) := by decide +kernel
  have addressed : mixed.addresses "to" =
      .ok [⟨"x@[10.0.0.1]", []⟩, ⟨"y@example.org", []⟩] := by decide +kernel
  rw [envelope.sender_eq, Except.ok.injEq, Option.some.injEq] at sender
  rw [envelope.primary_eq, Except.ok.injEq] at addressed
  refine ⟨first, primary, cc, bcc, envelope, kept.1 (congrArg Address.address sender).symm, ?_⟩
  rw [← keptAll]
  intro same
  obtain _ | ⟨p, primary⟩ := primary
  · cases addressed
  · have lost : [] = p.spec := (List.cons.inj same).1
    have there : p.spec = "x@[10.0.0.1]" := congrArg Address.address (List.cons.inj addressed).1
    rw [there] at lost
    exact absurd lost (by decide)

/-- A message from a sender in brackets. -/
def bracketed : Email :=
  .ofParts ⟨[⟨"From", "a@[10.0.0.1]", []⟩, ⟨"To", "x@y.org", []⟩], false, 2⟩ [0x68, 0x69]

/-- Such a sender is said to nobody: the message is handed over under an empty one. -/
theorem bracketed_loses_sender :
    Email.read false (Utf8.encodeDropping "From: a@[10.0.0.1]\nTo: x@y.org\n\nhi\n") =
        .ok bracketed ∧
      bracketed.sender = .ok (some ⟨"a@[10.0.0.1]", []⟩) ∧
      (perform (Work.send (Smtp.mailer plainServer .standard) "h")
          ⟨bracketed, []⟩).2.journal.calls =
        [.connect "h" 25 .standard, .hello, .mail [] ["x@y.org"]
          (Utf8.encodeDropping "From: <a@[10.0.0.1]>\r\nTo: <x@y.org>\r\n\r\nhi"), .quit] ∧
      ¬ ∀ sender recipients message, Smtp.Call.mail sender recipients message ∈
          (perform (Work.send (Smtp.mailer plainServer .standard) "h")
            ⟨bracketed, []⟩).2.journal.calls →
        ∃ a, bracketed.sender = .ok (some a) ∧ sender = a.address := by
  have sender : bracketed.sender = .ok (some ⟨"a@[10.0.0.1]", []⟩) := by decide +kernel
  have calls : (perform (Work.send (Smtp.mailer plainServer .standard) "h")
      ⟨bracketed, []⟩).2.journal.calls = [.connect "h" 25 .standard, .hello, .mail [] ["x@y.org"]
        (Utf8.encodeDropping "From: <a@[10.0.0.1]>\r\nTo: <x@y.org>\r\n\r\nhi"), .quit] := by
    decide +kernel
  refine ⟨by decide +kernel, sender, calls, fun agree => ?_⟩
  obtain ⟨a, same, said⟩ :=
    agree [] ["x@y.org"] _ (by rw [calls]; exact .tail _ (.tail _ (.head _)))
  rw [sender, Except.ok.injEq, Option.some.injEq] at same
  rw [← same] at said
  exact absurd said (by decide)

end Email

end Mailroom
