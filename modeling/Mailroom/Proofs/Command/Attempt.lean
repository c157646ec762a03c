import Mailroom.Proofs.Command.Delivery
import Mailroom.Proofs.Routing.Breakdown

/-!
# What sending a message comes to

* `Header.Addressed`: what is found in the four address fields;
* `Header.IsShownAs`: the octets of the view of a header;
* `Email.Sending`: why a message is not handed on, or the dispatch with which it is;
* `Email.sending_dispatch?`: every message has one of these endings;
* `Email.sendingText_eq_none_iff`: what is logged before a message is handed on cannot be put
  together exactly if the name of a hidden recipient cannot be written;
* `Email.Reachable.send_once`: sending calls the mailer once or not at all, and changes nothing.
-/

namespace Mailroom

open Email

namespace Header

variable {h : Header} {senders primary cc bcc : AddressList}

/-- What is found in the address fields, if all of them can be read. -/
structure Addressed (h : Header) (senders primary cc bcc : AddressList) : Prop where
  senders : h.addresses "from" = .ok senders
  primary : h.addresses "to" = .ok primary
  cc : h.addresses "cc" = .ok cc
  bcc : h.addresses "bcc" = .ok bcc

/-- The octets are what is written for the view of the header. -/
def IsShownAs (h : Header) (head : Octets) : Prop :=
  ∃ view, reconcile h = .ok view ∧ view.write? = some head

theorem Addressed.reads (addressed : h.Addressed senders primary cc bcc) :
    ∀ field ∈ addressFields, ∃ l, h.addresses field = .ok l := by
  simp only [addressFields, List.forall_mem_cons]
  exact ⟨⟨_, addressed.senders⟩, ⟨_, addressed.primary⟩, ⟨_, addressed.cc⟩, ⟨_, addressed.bcc⟩,
    List.forall_mem_nil _⟩

/-- What is found in the address fields is told by the header. -/
theorem Addressed.unique {senders' primary' cc' bcc' : AddressList}
    (addressed : h.Addressed senders primary cc bcc)
    (addressed' : h.Addressed senders' primary' cc' bcc') :
    senders = senders' ∧ primary = primary' ∧ cc = cc' ∧ bcc = bcc' :=
  ⟨Except.ok.inj (addressed.senders.symm.trans addressed'.senders),
    Except.ok.inj (addressed.primary.symm.trans addressed'.primary),
    Except.ok.inj (addressed.cc.symm.trans addressed'.cc),
    Except.ok.inj (addressed.bcc.symm.trans addressed'.bcc)⟩

end Header

namespace Email

variable {e : Email} {host : Text} {sender : Address} {senders primary cc bcc : AddressList}
  {head : Octets}

/-! ### The endings -/

/-- The dispatch of a message with a written view. -/
def dispatchTo (e : Email) (host : Text) (sender : Address) (recipients : AddressList)
    (head : Octets) : Dispatch :=
  ⟨host, e.auth, sender.address, recipients.addresses,
    head ++ [0x0D, 0x0A, 0x0D, 0x0A] ++ e.message⟩

/-- What sending a message to a host comes to: why it is not handed on, or the dispatch with which
it is, and what is logged before. -/
inductive Sending (e : Email) (host : Text) : Except Failure (Dispatch × Option Text) → Prop where
  /-- The first of the address fields that cannot be read. -/
  | unread (before : List Text) {after : List Text} {field : Text} {failure : Address.Failure}
      (fields : addressFields = before ++ field :: after)
      (earlier : ∀ name ∈ before, ∃ l, e.header.addresses name = .ok l)
      (unread : e.header.addresses field = .error failure) :
      Sending e host (.error (.ofField field failure))
  | unaddressed {senders primary cc bcc : AddressList}
      (addressed : e.header.Addressed senders primary cc bcc)
      (nobody : senders = [] ∨ primary = []) : Sending e host (.error .undeliverable)
  | unshown {sender : Address} {senders primary cc bcc : AddressList}
      (addressed : e.header.Addressed (sender :: senders) primary cc bcc)
      (some_recipient : primary ≠ []) (unshown : ∀ head, ¬ e.header.IsShownAs head) :
      Sending e host (.error (.breakdown .unencodable))
  | handed {sender : Address} {senders primary cc bcc : AddressList} {head : Octets}
      (addressed : e.header.Addressed (sender :: senders) primary cc bcc)
      (some_recipient : primary ≠ []) (shown : e.header.IsShownAs head) :
      Sending e host (.ok (e.dispatchTo host sender (primary ++ cc ++ bcc) head,
        sendingText sender (primary ++ cc ++ bcc) host))

/-- If the address fields can be read, a message has octets, or its view cannot be written. -/
theorem octets?_cases (reads : ∀ field ∈ addressFields, ∃ l, e.header.addresses field = .ok l) :
    (∃ head, e.header.IsShownAs head ∧
        octets? e.header e.message = .ok (head ++ [0x0D, 0x0A, 0x0D, 0x0A] ++ e.message)) ∨
      (∀ head, ¬ e.header.IsShownAs head) ∧
        octets? e.header e.message = .error (.breakdown .unencodable) := by
  unfold octets?
  cases shows : reconcile e.header with
  | error failure =>
    rw [Header.reconcile_eq_error_of_reads reads shows]
    refine .inr ⟨?_, rfl⟩
    rintro head ⟨view, shows', -⟩
    cases shows.symm.trans shows'
  | ok view =>
    simp only [bind, Except.bind, wire?]
    cases writes : view.write? with
    | none =>
      refine .inr ⟨?_, rfl⟩
      rintro head ⟨view', shows', writes'⟩
      cases shows.symm.trans shows'
      cases writes.symm.trans writes'
    | some head => exact .inl ⟨head, ⟨view, shows, writes⟩, rfl⟩

/-- **Every message has one of these endings**, which its header, its body and what there is to log
in with tell. -/
theorem sending_dispatch? (e : Email) (host : Text) :
    e.Sending host (dispatch? e.header e.message e.auth host) := by
  unfold dispatch? envelope?
  cases hs : e.header.addresses "from" with
  | error failure =>
    simp only [hs, mapError_error, bind, Except.bind]
    exact .unread [] rfl nofun hs
  | ok senders =>
  cases ht : e.header.addresses "to" with
  | error failure =>
    simp only [hs, ht, mapError_ok, mapError_error, bind, Except.bind]
    exact .unread ["from"] rfl (List.forall_mem_singleton.2 ⟨senders, hs⟩) ht
  | ok primary =>
  cases hc : e.header.addresses "cc" with
  | error failure =>
    simp only [hs, ht, hc, mapError_ok, mapError_error, bind, Except.bind]
    exact .unread ["from", "to"] rfl (List.forall_mem_cons.2 ⟨⟨senders, hs⟩,
      List.forall_mem_singleton.2 ⟨primary, ht⟩⟩) hc
  | ok cc =>
  cases hb : e.header.addresses "bcc" with
  | error failure =>
    simp only [hs, ht, hc, hb, mapError_ok, mapError_error, bind, Except.bind]
    exact .unread ["from", "to", "cc"] rfl (List.forall_mem_cons.2 ⟨⟨senders, hs⟩,
      List.forall_mem_cons.2 ⟨⟨primary, ht⟩, List.forall_mem_singleton.2 ⟨cc, hc⟩⟩⟩) hb
  | ok bcc =>
  have addressed : e.header.Addressed senders primary cc bcc := ⟨hs, ht, hc, hb⟩
  simp only [hs, ht, hc, hb, mapError_ok, bind, Except.bind]
  rcases senders with _ | ⟨sender, senders⟩
  · exact .unaddressed addressed (.inl rfl)
  rcases primary with _ | ⟨recipient, primary⟩
  · exact .unaddressed addressed (.inr rfl)
  have some_recipient : recipient :: primary ≠ [] := List.cons_ne_nil _ _
  simp only [List.head?_cons, List.isEmpty_cons, Bool.false_eq_true, if_false]
  rcases octets?_cases addressed.reads with ⟨head, shown, octets⟩ | ⟨unshown, octets⟩
  · rw [octets]
    exact .handed addressed some_recipient shown
  · rw [octets]
    exact .unshown addressed some_recipient unshown

/-- A message is handed on exactly if it has a sender and a recipient, all of its address fields
can be read, and its view can be written. -/
theorem exists_dispatch?_iff :
    (∃ sent, dispatch? e.header e.message e.auth host = .ok sent) ↔
      ∃ sender senders primary cc bcc head,
        e.header.Addressed (sender :: senders) primary cc bcc ∧ primary ≠ [] ∧
          e.header.IsShownAs head := by
  have ending := e.sending_dispatch? host
  generalize dispatch? e.header e.message e.auth host = x at ending
  constructor
  · rintro ⟨sent, rfl⟩
    cases ending with
    | handed addressed some_recipient shown =>
      exact ⟨_, _, _, _, _, _, addressed, some_recipient, shown⟩
  · rintro ⟨sender, senders, primary, cc, bcc, head, addressed, some_recipient, shown⟩
    cases ending with
    | @unread before after field failure fields earlier unread =>
      have member : field ∈ addressFields := by
        rw [fields]
        exact List.mem_append_right before List.mem_cons_self
      obtain ⟨l, read⟩ := addressed.reads field member
      cases read.symm.trans unread
    | unaddressed addressed' nobody =>
      obtain ⟨rfl, rfl, -⟩ := addressed.unique addressed'
      exact absurd nobody (by simp [some_recipient])
    | unshown addressed' some_recipient' unshown => exact absurd shown (unshown head)
    | handed addressed' some_recipient' shown' => exact ⟨_, rfl⟩

/-! ### What is logged -/

/-- What is logged before a message is handed on can be put together, unless the name of a hidden
recipient cannot be written: those of all others are in the view. -/
theorem sendingText_eq_none_iff (addressed : e.header.Addressed (sender :: senders) primary cc bcc)
    (shown : e.header.IsShownAs head) :
    sendingText sender (primary ++ cc ++ bcc) host = none ↔
      ∃ a ∈ bcc, a.name.any CodePoint.isSurrogate = true := by
  obtain ⟨view, shows, -⟩ := shown
  have plain := (Header.exists_view_iff_hasPlainNames addressed.reads).1 ⟨view, shows⟩
  have first : sender.name.any CodePoint.isSurrogate = false :=
    plain "from" (by decide) _ addressed.senders sender (by simp [shownPart])
  have others : ∀ a ∈ primary ++ cc, a.name.any CodePoint.isSurrogate = false := by
    intro a ha
    rcases List.mem_append.1 ha with ha | ha
    · exact plain "to" (by decide) _ addressed.primary a (by rwa [shownPart, if_neg (by decide)])
    · exact plain "cc" (by decide) _ addressed.cc a (by rwa [shownPart, if_neg (by decide)])
  obtain ⟨text, renders⟩ := Address.exists_render?_iff.2 first
  have said : sendingText sender (primary ++ cc ++ bcc) host = none ↔
      AddressList.render? (primary ++ cc ++ bcc) = none := by
    unfold sendingText
    rw [renders]
    cases AddressList.render? (primary ++ cc ++ bcc) <;> simp
  rw [said, Option.eq_none_iff_forall_ne_some, ← not_iff_not]
  push Not
  rw [AddressList.exists_render?_iff, List.forall_mem_append, and_iff_right others]
  simp only [ne_eq, Bool.not_eq_true]

/-! ### One attempt -/

/-- What a mailer makes of a message that is handed on, behind what is logged. -/
def attempt (mailer : Mailer) : Except Failure (Dispatch × Option Text) → Delivery
  | .error failure => ⟨[], .error failure⟩
  | .ok (dispatch, text) =>
    ⟨[.log ⟨.debug, text⟩, .dispatch dispatch] ++ (mailer dispatch).journal,
      (mailer dispatch).result⟩

/-- **Sending is one exact attempt.** A message that has come about is handed on exactly if all of
its address fields can be read, there is a sender and a recipient, and its view can be written. It
is handed on once, with the envelope that the fields give, and what comes of it is what the mailer
makes of it. Otherwise the mailer is not called, and the first thing that is missing is why. In each
case the header, the body and what there is to log in with stay as they are. What is logged before
has no text exactly if the name of a hidden recipient cannot be written, and a run that asks for
details ends there. -/
theorem Reachable.send_once {e : Email} (reached : e.Reachable) (mailer : Mailer) (host : Text)
    (journal : Journal) :
    ∃ x d', perform (Work.send mailer host) ⟨e, journal⟩ = ((attempt mailer x).result, d') ∧
      e.Sending host x ∧
      ((∃ sent, x = .ok sent) ↔ ∃ sender senders primary cc bcc head,
        e.header.Addressed (sender :: senders) primary cc bcc ∧ primary ≠ [] ∧
          e.header.IsShownAs head) ∧
      d'.journal = journal ++ (attempt mailer x).journal ∧
      d'.email.header = e.header ∧ d'.email.message = e.message ∧ d'.email.auth = e.auth ∧
      ∀ dispatch text, x = .ok (dispatch, text) →
        (text = none ↔ ∃ bcc, e.header.addresses "bcc" = .ok bcc ∧
          ∃ a ∈ bcc, a.name.any CodePoint.isSurrogate = true) ∧
        (text = none → (∀ event ∈ journal, Console.isUnwritable event = false) → ∀ ending,
          Console.written true ⟨d'.journal, ending⟩ =
            ⟨journal ++ [.log ⟨.debug, none⟩], .broken (.breakdown .unencodable)⟩) := by
  obtain ⟨d, refreshed, performs⟩ :=
    Work.perform_send mailer host (d := ⟨e, journal⟩) reached.isCoherent
  have ending := e.sending_dispatch? host
  have handed_iff := @exists_dispatch?_iff e host
  dsimp only at performs
  generalize dispatch? e.header e.message e.auth host = x at performs ending handed_iff
  cases x with
  | error failure =>
    refine ⟨.error failure, d, performs, ending, handed_iff, ?_, refreshed.header,
      refreshed.message, refreshed.auth, nofun⟩
    rw [refreshed.journal]
    exact (List.append_nil journal).symm
  | ok sent =>
    obtain ⟨dispatch, text⟩ := sent
    have events : d.journal ++ [.log ⟨.debug, text⟩, .dispatch dispatch] ++
        (mailer dispatch).journal = journal ++ (attempt mailer (.ok (dispatch, text))).journal := by
      rw [refreshed.journal, List.append_assoc]
      rfl
    refine ⟨.ok (dispatch, text), _, performs, ending, handed_iff, events, refreshed.header,
      refreshed.message, refreshed.auth, ?_⟩
    intro dispatch' text' same
    cases same
    constructor
    · cases ending with
      | handed addressed some_recipient shown =>
        rw [sendingText_eq_none_iff addressed shown]
        constructor
        · exact fun hidden => ⟨_, addressed.bcc, hidden⟩
        · rintro ⟨bcc, read, hidden⟩
          rwa [Except.ok.inj (addressed.bcc.symm.trans read)]
    · rintro rfl writable ending
      show Console.written true ⟨d.journal ++ _ ++ _, ending⟩ = _
      rw [events]
      exact Console.written_of_unwritable ending writable rfl

/-- A message with a hidden recipient, whose name is an octet that is no part of UTF-8. -/
def whispered : Email :=
  .ofParts ⟨[⟨"From", "a@b.c", []⟩, ⟨"To", "x@y.org", []⟩,
    ⟨"Bcc", CodePoint.ofOctet 0xFF :: " <b@c.d>", []⟩], false, 3⟩ [0x68, 0x69]

/-- Such a message is handed on once, but a run that asks for details ends before. -/
theorem whispered_send_once :
    whispered.Reachable ∧
      ∃ d', perform (Work.send .accepting "h") ⟨whispered, []⟩ = (.ok (), d') ∧
        d'.journal = [.log ⟨.debug, none⟩, .dispatch ⟨"h", none, "a@b.c", ["x@y.org", "b@c.d"],
          Utf8.encodeDropping "From: <a@b.c>\r\nTo: <x@y.org>\r\n\r\nhi"⟩] ∧
        ∀ ending, Console.written true ⟨d'.journal, ending⟩ =
          ⟨[.log ⟨.debug, none⟩], .broken (.breakdown .unencodable)⟩ := by
  have reached : whispered.Reachable := .start _ _
  have events : (perform (Work.send .accepting "h") ⟨whispered, []⟩).2.journal =
      [.log ⟨.debug, none⟩, .dispatch ⟨"h", none, "a@b.c", ["x@y.org", "b@c.d"],
        Utf8.encodeDropping "From: <a@b.c>\r\nTo: <x@y.org>\r\n\r\nhi"⟩] := by decide +kernel
  obtain ⟨x, d', performs, -, -, journal, -, -, -, logged⟩ := reached.send_once .accepting "h" []
  rw [performs] at events
  have attempted : (attempt .accepting x).journal = _ := journal.symm.trans events
  rcases x with failure | ⟨dispatch, text⟩
  · cases attempted
  · cases attempted
    exact ⟨reached, d', performs, events, (logged _ _ rfl).2 rfl nofun⟩

end Email

namespace Command

/-- A message with a sender and a recipient, whose address fields can be read and whose view can be
written, is sent; with details asked for it is not, as the name of a hidden recipient cannot be
logged. -/
theorem verbose_keeps_whispered :
    let disk : Disk := ⟨fun _ => .ok (Utf8.encodeDropping ("- name: r\n  matchers: ['*']\n" ++
      "  auth: \x7busername: u, password: p, host: h, server: h\x7d\n")), fun _ => true⟩
    let input : Octets := Utf8.encodeDropping "From: a@b.c\nTo: x@y.org\nBcc: " ++ 0xFF ::
      Utf8.encodeDropping " <b@c.d>\n\nhi\n"
    readStream false input = .ok whispered ∧
      whispered.header.Addressed [⟨"a@b.c", []⟩] [⟨"x@y.org", []⟩] []
        [⟨"b@c.d", [CodePoint.ofOctet 0xFF]⟩] ∧
      (∃ head, whispered.header.IsShownAs head) ∧
      (run takingServer disk ⟨[]⟩ input []).journal.calls =
        [.connect "h" 25 .standard, .hello, .startTls, .hello, .login "u" "p",
          .mail "a@b.c" ["x@y.org", "b@c.d"] (Utf8.encodeDropping
            "From: <a@b.c>\r\nTo: <x@y.org>\r\n\r\nhi"), .quit] ∧
      (run takingServer disk ⟨[]⟩ input ["-v"]).journal.calls = [] ∧
      (run takingServer disk ⟨[]⟩ input ["-v"]).ending = .broken (.breakdown .unencodable) := by
  intro disk input
  refine ⟨by decide +kernel, ⟨by decide +kernel, by decide +kernel, by decide +kernel,
    by decide +kernel⟩, ⟨_, _, rfl, rfl⟩, by decide +kernel, by decide +kernel, by decide +kernel⟩

end Command

end Mailroom
