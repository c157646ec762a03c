import Mailroom.Proofs.Command.Delivery
import Mailroom.Proofs.Message.Setters
import Mailroom.Proofs.Routing.Wire

/-!
# The addresses of the command line

The sender and the recipients that are given to the command take the places of those of the message.

* `Command.stop`: how a word that cannot be read ends a run, and what is logged;
* `Command.Signing`, `Command.Directing`, `Command.Addressing`: what becomes of a message, with its
  ending and what is logged;
* `Command.IsRefused`: a word is no address, and all that comes before it has been settled;
* `Command.addressing`: each run comes to one of these endings, and its message has the recipients
  that are read once they have been written.
-/

namespace Mailroom

namespace Command

/-! ### Endings -/

/-- How a word that cannot be read ends a run, and what is logged: a report, unless reading breaks
down. -/
def stop (field word : Text) : Address.Failure → Ending × Journal
  | .fault fault => (.reported,
      [.log ⟨.error, some (unsetText field word ++ (ParseFault.address fault).message)⟩])
  | .breakdown cause => (.broken (.breakdown (.address cause)), [])

/-- What becomes of a message for a sender that is given, with what is logged. -/
inductive Signing (sender : Text) (e : Email) : Except Ending Email → Journal → Prop where
  | kept (absent : sender = []) : Signing sender e (.ok e) []
  | unread {failure : Address.Failure} (given : sender ≠ [])
      (unread : Address.parse sender = .error failure) :
      Signing sender e (.error (stop "from" sender failure).1) (stop "from" sender failure).2
  | closed {a : Address} (given : sender ≠ []) (parses : Address.parse sender = .ok a)
      (closed : e.header.isReadOnly = true) :
      Signing sender e (.error (.broken (.header .readOnly))) []
  | signed {a : Address} (given : sender ≠ []) (parses : Address.parse sender = .ok a)
      (writable : e.header.isReadOnly = false) :
      Signing sender e (.ok (Work.replaced e "From" sender.trim)) []

/-- What becomes of a message for recipients that are given, with what is logged. Each is read by
itself; all are written as one list, and that is read again. -/
inductive Directing (words : List Text) (e : Email) : Except Ending Email → Journal → Prop where
  | kept (absent : words = []) : Directing words e (.ok e) []
  | unread {before after : List Text} {word : Text} {failure : Address.Failure}
      (split : words = before ++ word :: after)
      (earlier : ∀ w ∈ before, ∃ a, Address.parse w = .ok a)
      (unread : Address.parse word = .error failure) :
      Directing words e (.error (stop "to" word failure).1) (stop "to" word failure).2
  | unwritten {recipients : AddressList} {a : Address} (given : words ≠ [])
      (parse : words.mapM Address.parse = .ok recipients) (member : a ∈ recipients)
      (surrogate : a.name.any CodePoint.isSurrogate = true) :
      Directing words e (.error (.broken (.breakdown .unencodable))) []
  | unreadable {recipients : AddressList} {text : Text} {failure : Address.Failure}
      (given : words ≠ []) (parse : words.mapM Address.parse = .ok recipients)
      (rendered : AddressList.render? recipients = some text)
      (unread : AddressList.parse text = .error failure) :
      Directing words e (.error (.broken (.ofAddress failure))) []
  | closed {recipients again : AddressList} {text : Text} (given : words ≠ [])
      (parse : words.mapM Address.parse = .ok recipients)
      (rendered : AddressList.render? recipients = some text)
      (reads : AddressList.parse text = .ok again) (closed : e.header.isReadOnly = true) :
      Directing words e (.error (.broken (.header .readOnly))) []
  | directed {recipients again : AddressList} {text : Text} (given : words ≠ [])
      (parse : words.mapM Address.parse = .ok recipients)
      (rendered : AddressList.render? recipients = some text)
      (reads : AddressList.parse text = .ok again) (writable : e.header.isReadOnly = false) :
      Directing words e (.ok (Work.replaced e "To" text)) []

/-- What becomes of a message for the words of the command line, with what is logged. -/
inductive Addressing (o : Options) (e : Email) : Except Ending Email → Journal → Prop where
  | unsigned {ending : Ending} {events : Journal}
      (signing : Signing o.sender e (.error ending) events) :
      Addressing o e (.error ending) events
  | directed {signed : Email} {result : Except Ending Email} {events : Journal}
      (signing : Signing o.sender e (.ok signed) [])
      (directing : Directing o.recipients signed result events) : Addressing o e result events

/-! ### Each run comes to one of them -/

variable {α : Type} {e : Email} {o : Options}

theorem perform_orReport_ofAddress (field word : Text) (failure : Address.Failure)
    (journal : Journal) :
    perform (orReport (α := α) (reportOfParse (unsetText field word))
        (.error (Failure.ofAddress failure))) journal =
      (.error (stop field word failure).1, journal ++ (stop field word failure).2) := by
  cases failure with
  | fault fault => rfl
  | breakdown cause => exact congrArg (Prod.mk _) (List.append_nil journal).symm

/-- A step that logs nothing. -/
theorem perform_eq_append_nil {step : Command α} {result : Except Ending α} {journal : Journal}
    (h : perform step journal = (result, journal)) :
    perform step journal = (result, journal ++ []) := by
  rw [h, List.append_nil]

/-- A sender that is given is refused, or takes the place of that of the message. -/
theorem perform_signing (sender : Text) (e : Email) (journal : Journal) :
    ∃ result events, perform (setSender sender e) journal = (result, journal ++ events) ∧
      Signing sender e result events := by
  unfold setSender
  by_cases absent : sender = []
  · rw [if_pos (by simp [absent])]
    exact ⟨.ok e, [], perform_eq_append_nil rfl, .kept absent⟩
  rw [if_neg (by simpa using absent), perform_bind_ok (perform_work _ _ _)]
  obtain ⟨result, signed, performs, setting⟩ := Work.setting_setSender sender e journal
  rw [performs]
  cases setting with
  | unread unread =>
    exact ⟨_, _, perform_bind_error (perform_orReport_ofAddress _ _ _ _),
      .unread absent (map_eq_error_iff.1 unread)⟩
  | closed reads closed =>
    obtain ⟨a, parses, -⟩ := map_eq_ok_iff.1 reads
    exact ⟨_, [], perform_eq_append_nil rfl, .closed absent parses closed⟩
  | set reads writable =>
    obtain ⟨a, parses, -⟩ := map_eq_ok_iff.1 reads
    exact ⟨_, [], perform_eq_append_nil rfl, .signed absent parses writable⟩

/-- The first word that cannot be read ends the run. -/
theorem perform_mapM_recipient_of_unread {before : List Text} {word : Text}
    {failure : Address.Failure} (earlier : ∀ w ∈ before, ∃ a, Address.parse w = .ok a)
    (unread : Address.parse word = .error failure) (after : List Text) (journal : Journal) :
    perform ((before ++ word :: after).mapM recipient) journal =
      (.error (stop "to" word failure).1, journal ++ (stop "to" word failure).2) := by
  induction before with
  | nil =>
    rw [List.nil_append, List.mapM_cons]
    refine perform_bind_error ?_
    unfold recipient
    rw [unread]
    exact perform_orReport_ofAddress _ _ _ _
  | cons w before ih =>
    rw [List.forall_mem_cons] at earlier
    obtain ⟨a, parses⟩ := earlier.1
    have first : perform (recipient w) journal = (.ok a, journal) :=
      perform_orReport_eq_ok_iff.2 ⟨mapError_eq_ok_iff.2 parses, rfl⟩
    rw [List.cons_append, List.mapM_cons, perform_bind_ok first]
    exact perform_bind_error (ih earlier.2)

/-- Recipients that are given are refused, or lost on the way, or take the places of those of the
message. -/
theorem perform_directing (words : List Text) (e : Email) (journal : Journal) :
    ∃ result events, perform (setRecipients words e) journal = (result, journal ++ events) ∧
      Directing words e result events := by
  unfold setRecipients
  cases parse : words.mapM Address.parse with
  | error failure =>
    obtain ⟨before, word, after, rfl, earlier, unread⟩ := mapM_eq_error_iff.1 parse
    exact ⟨_, _, perform_bind_error (perform_mapM_recipient_of_unread earlier unread after journal),
      .unread rfl earlier unread⟩
  | ok recipients =>
    rw [perform_bind_ok (perform_mapM_recipient_eq_ok_iff.2 ⟨parse, rfl⟩)]
    by_cases absent : words = []
    · rw [if_pos (by simpa using (eq_nil_iff_of_mapM parse).2 absent)]
      exact ⟨.ok e, [], perform_eq_append_nil rfl, .kept absent⟩
    rw [if_neg (by simpa using fun none => absent ((eq_nil_iff_of_mapM parse).1 none))]
    cases rendered : AddressList.render? recipients with
    | none =>
      have surrogate : ¬ ∀ a ∈ recipients, a.name.any CodePoint.isSurrogate = false := by
        intro plain
        obtain ⟨text, rendered'⟩ := AddressList.exists_render?_iff.2 plain
        cases rendered.symm.trans rendered'
      push Not at surrogate
      obtain ⟨a, member, surrogate⟩ := surrogate
      exact ⟨_, [], perform_eq_append_nil rfl,
        .unwritten absent parse member (by simpa using surrogate)⟩
    | some text =>
      dsimp only
      rw [perform_bind_ok (perform_work _ _ _)]
      obtain ⟨result, directed, performs, setting⟩ := Work.setting_setRecipients text e journal
      rw [performs]
      cases setting with
      | unread unread =>
        exact ⟨_, [], perform_eq_append_nil rfl, .unreadable absent parse rendered unread⟩
      | closed reads closed =>
        exact ⟨_, [], perform_eq_append_nil rfl, .closed absent parse rendered reads closed⟩
      | set reads writable =>
        -- nothing is lost at the ends of the text, since it has no blanks there
        rw [Text.trim_eq_self_iff.2 (AddressList.isTrimmed_render? rendered)]
        exact ⟨_, [], perform_eq_append_nil rfl, .directed absent parse rendered reads writable⟩

/-- The words of the command line are refused, or take the places of what the message has. -/
theorem perform_addressing (o : Options) (e : Email) (journal : Journal) :
    ∃ result events, perform (address o e) journal = (result, journal ++ events) ∧
      Addressing o e result events := by
  unfold address
  obtain ⟨result, events, performs, signing⟩ := perform_signing o.sender e journal
  cases result with
  | error ending => exact ⟨_, events, perform_bind_error performs, .unsigned signing⟩
  | ok signed =>
    obtain rfl : events = [] := by cases signing <;> rfl
    rw [List.append_nil] at performs
    obtain ⟨result, events, performs', directing⟩ := perform_directing o.recipients signed journal
    exact ⟨result, events, (perform_bind_ok performs).trans performs', .directed signing directing⟩

/-! ### Who is written to -/

/-- The sender of the command line, if there is one, has taken the place of that of the message. -/
def IsSettled (sender : Text) (e : Email) : Prop :=
  sender = [] ∨ (∃ a, Address.parse sender = .ok a) ∧ e.header.isReadOnly = false

/-- The sender of the command line is no address, or one of the recipients is none, and all that
comes before it has been settled. -/
def IsRefused (o : Options) (e : Email) : Prop :=
  (o.sender ≠ [] ∧ ∃ fault, Address.parse o.sender = .error (.fault fault)) ∨
    IsSettled o.sender e ∧ ∃ before word after fault, o.recipients = before ++ word :: after ∧
      (∀ w ∈ before, ∃ a, Address.parse w = .ok a) ∧ Address.parse word = .error (.fault fault)

variable {sender : Text} {words : List Text} {signed e' : Email} {result : Except Ending Email}
  {events : Journal}

theorem stop_eq_reported_iff {field word : Text} {failure : Address.Failure} :
    (stop field word failure).1 = .reported ↔ ∃ fault, failure = .fault fault := by
  cases failure <;> simp [stop]

theorem Signing.isSettled (signing : Signing sender e (.ok signed) events) :
    IsSettled sender e := by
  cases signing with
  | kept absent => exact .inl absent
  | signed given parses writable => exact .inr ⟨⟨_, parses⟩, writable⟩

theorem Signing.exists_of_isSettled (settled : IsSettled sender e)
    (signing : Signing sender e result events) :
    ∃ signed, result = .ok signed ∧ signed.header.isReadOnly = e.header.isReadOnly := by
  cases signing with
  | kept absent => exact ⟨e, rfl, rfl⟩
  | unread given unread =>
    rcases settled with absent | ⟨⟨a, parses⟩, -⟩
    · exact absurd absent given
    · cases unread.symm.trans parses
  | closed given parses closed =>
    rcases settled with absent | ⟨-, writable⟩
    · exact absurd absent given
    · cases closed.symm.trans writable
  | signed given parses writable => exact ⟨_, rfl, rfl⟩

/-! ### What is logged -/

/-- A run that ends with a report logs it, as an error, and any other logs nothing. -/
def Reports (result : Except Ending Email) (events : Journal) : Prop :=
  (result = .error .reported ∧ ∃ text, events = [.log ⟨.error, some text⟩]) ∨
    result ≠ .error .reported ∧ events = []

theorem reports_stop (field word : Text) (failure : Address.Failure) :
    Reports (.error (stop field word failure).1) (stop field word failure).2 := by
  cases failure with
  | fault fault => exact .inl ⟨rfl, _, rfl⟩
  | breakdown cause => exact .inr ⟨nofun, rfl⟩

theorem Addressing.reports (addressing : Addressing o e result events) : Reports result events := by
  cases addressing with
  | unsigned signing =>
    cases signing with
    | unread => exact reports_stop _ _ _
    | closed => exact .inr ⟨nofun, rfl⟩
  | directed signing directing =>
    cases directing with
    | unread => exact reports_stop _ _ _
    | kept | unwritten | unreadable | closed | directed => exact .inr ⟨nofun, rfl⟩

/-- A run ends with a report exactly if a word is refused. -/
theorem Addressing.eq_reported_iff (addressing : Addressing o e result events) :
    result = .error .reported ↔ IsRefused o e := by
  cases addressing with
  | unsigned signing =>
    cases signing with
    | unread given unread =>
      rw [Except.error.injEq, stop_eq_reported_iff]
      constructor
      · rintro ⟨fault, rfl⟩
        exact .inl ⟨given, fault, unread⟩
      · rintro (⟨-, fault, unread'⟩ | ⟨absent | ⟨⟨a, parses⟩, -⟩, -⟩)
        · exact ⟨fault, Except.error.inj (unread.symm.trans unread')⟩
        · exact absurd absent given
        · cases unread.symm.trans parses
    | closed given parses closed =>
      refine iff_of_false nofun ?_
      rintro (⟨-, fault, unread⟩ | ⟨absent | ⟨-, writable⟩, -⟩)
      · cases unread.symm.trans parses
      · exact absurd absent given
      · cases closed.symm.trans writable
  | directed signing directing =>
    have unrefused :
        ¬ (o.sender ≠ [] ∧ ∃ fault, Address.parse o.sender = .error (.fault fault)) := by
      rintro ⟨given, fault, unread⟩
      rcases signing.isSettled with absent | ⟨⟨a, parses⟩, -⟩
      · exact absurd absent given
      · cases unread.symm.trans parses
    -- with the sender settled, the recipients decide
    rw [IsRefused, or_iff_right unrefused, and_iff_right signing.isSettled]
    have refused : (∃ before word after fault, o.recipients = before ++ word :: after ∧
        (∀ w ∈ before, ∃ a, Address.parse w = .ok a) ∧
        Address.parse word = .error (.fault fault)) ↔
        ∃ fault, o.recipients.mapM Address.parse = .error (.fault fault) := by
      simp only [mapM_eq_error_iff]
      constructor
      · rintro ⟨before, word, after, fault, h⟩
        exact ⟨fault, before, word, after, h⟩
      · rintro ⟨fault, before, word, after, h⟩
        exact ⟨before, word, after, fault, h⟩
    rw [refused]
    cases directing with
    | kept absent =>
      refine iff_of_false nofun ?_
      rw [absent]
      rintro ⟨fault, h⟩
      cases h
    | unread split earlier unread =>
      rw [Except.error.injEq, stop_eq_reported_iff,
        mapM_eq_error_iff.2 ⟨_, _, _, split, earlier, unread⟩]
      simp
    | unwritten given parse | unreadable given parse | closed given parse | directed given parse =>
      refine iff_of_false nofun ?_
      rw [parse]
      rintro ⟨fault, h⟩
      cases h

/-! ### Recipients that are found again -/

/-- The message has the recipients of some words, in order and with their names. -/
def HasRecipients (result : Except Ending Email) (l : AddressList) : Prop :=
  ∃ e', result = .ok e' ∧ e'.addresses "to" = .ok l

/-- Ordinary recipients are found again exactly if each of them is the same when it has been written
and read, and its name can be written at all. -/
theorem Addressing.hasRecipients_iff (addressing : Addressing o e result events)
    (settled : IsSettled o.sender e) (writable : e.header.isReadOnly = false)
    (given : o.recipients ≠ []) {ps : List Address.Parts}
    (parse : o.recipients.mapM Address.parse = .ok (ps.map (·.address)))
    (ordinary : ∀ p ∈ ps, p.IsOrdinary) :
    HasRecipients result (ps.map (·.address)) ↔
      ∀ p ∈ ps, p.IsStable ∧ p.name.any CodePoint.isSurrogate = false := by
  have some : ps ≠ [] := by
    rintro rfl
    exact given ((eq_nil_iff_of_mapM parse).1 rfl)
  have reads : ∀ p ∈ ps, ∃ word, AddressList.parse word = .ok [p.address] := fun p hp => by
    obtain ⟨word, -, parses⟩ := exists_of_mem_mapM parse (List.mem_map_of_mem hp)
    exact ⟨word, Address.parse_eq_ok_iff.1 parses⟩
  have unbroken : ∀ p ∈ ps, p.address.IsUnbroken := fun p hp => by
    obtain ⟨word, parses⟩ := reads p hp
    exact AddressList.isUnbroken_of_parse parses _ List.mem_cons_self
  have encodable : ∀ p ∈ ps, p.spec.IsEncodable := fun p hp => by
    obtain ⟨word, parses⟩ := reads p hp
    exact AddressList.isEncodable_of_parse parses _ List.mem_cons_self
  cases addressing with
  | unsigned signing =>
    obtain ⟨signed, goesOn, -⟩ := signing.exists_of_isSettled settled
    cases goesOn
  | @directed signed _ _ signing directing =>
    obtain ⟨_, goesOn, same⟩ := signing.exists_of_isSettled settled
    cases goesOn
    cases directing with
    | kept absent => exact absurd absent given
    | unread split earlier unread =>
      cases parse.symm.trans (mapM_eq_error_iff.2 ⟨_, _, _, split, earlier, unread⟩)
    | unwritten _ parse' member surrogate =>
      cases parse.symm.trans parse'
      obtain ⟨p, hp, rfl⟩ := List.mem_map.1 member
      refine iff_of_false (fun ⟨_, e, _⟩ => by cases e) fun all => ?_
      cases surrogate.symm.trans (all p hp).2
    | unreadable _ parse' rendered unread =>
      cases parse.symm.trans parse'
      refine iff_of_false (fun ⟨_, e, _⟩ => by cases e) fun all => ?_
      cases unread.symm.trans (AddressList.parse_rendered some ordinary
        (fun p hp => (all p hp).1.1) unbroken encodable rendered)
    | closed _ _ _ _ closed => cases (same.trans writable).symm.trans closed
    | @directed _ _ text _ parse' rendered reads' =>
      cases parse.symm.trans parse'
      have names := AddressList.exists_render?_iff.1 ⟨text, rendered⟩
      have legible := AddressList.isLegible_of_parse_rendered ordinary rendered reads'
      have again := AddressList.parse_rendered some ordinary legible unbroken encodable rendered
      have filled : text.isBlank = false := by
        obtain ⟨p, others, rfl⟩ := List.exists_cons_of_ne_nil some
        exact AddressList.isBlank_of_render? rendered
      have found : (Work.replaced signed "To" text).addresses "to" =
          .ok (ps.map (·.again.address)) := by
        refine Email.addresses_eq_ok_iff.2 ?_
        rw [Work.addresses_replaced signed FieldName.canonical_to filled, again]
      constructor
      · rintro ⟨e', e, has⟩ p hp
        cases e
        have same := List.map_inj_left.1 (Except.ok.inj (found.symm.trans has)) p hp
        exact ⟨⟨legible p hp, Address.Parts.again_address_eq_iff.1 same⟩,
          names p.address (List.mem_map_of_mem hp)⟩
      · intro all
        refine ⟨_, rfl, found.trans (congrArg Except.ok ?_)⟩
        exact List.map_congr_left fun p hp =>
          Address.Parts.again_address_eq_iff.2 (all p hp).1.2

/-! ### What is left alone -/

/-- A message that a run goes on with has kept all but its sender and its recipients, and these as
well so far as none have been given; otherwise it has the recipients that are read from the list. -/
structure HasKept (o : Options) (e e' : Email) : Prop where
  others : ∀ name : Text, FieldName.canonical name ≠ Text.ofString "From" →
    FieldName.canonical name ≠ Text.ofString "To" → e'.header.values name = e.header.values name
  message : e'.message = e.message
  auth : e'.auth = e.auth
  sender : o.sender = [] → e'.header.values "from" = e.header.values "from"
  recipients : o.recipients = [] → e'.header.values "to" = e.header.values "to"
  directed : o.recipients ≠ [] → ∃ recipients text again,
    o.recipients.mapM Address.parse = .ok recipients ∧
      AddressList.render? recipients = some text ∧ AddressList.parse text = .ok again ∧
      e'.header.values "to" = [text] ∧ e'.addresses "to" = .ok again

theorem Signing.kept_of_ok (signing : Signing sender e (.ok signed) events) :
    (∀ name, FieldName.canonical name ≠ Text.ofString "From" →
        signed.header.values name = e.header.values name) ∧
      signed.message = e.message ∧ signed.auth = e.auth ∧ (sender = [] → signed = e) := by
  cases signing with
  | kept => exact ⟨fun _ _ => rfl, rfl, rfl, fun _ => rfl⟩
  | signed given =>
    exact ⟨fun name other => by rw [Work.values_replaced, if_neg other], rfl, rfl,
      fun absent => absurd absent given⟩

theorem Addressing.hasKept (addressing : Addressing o e (.ok e') events) : HasKept o e e' := by
  have from_to : FieldName.canonical (Text.ofString "from") ≠ Text.ofString "To" := by decide
  have to_from : FieldName.canonical (Text.ofString "to") ≠ Text.ofString "From" := by decide
  cases addressing with
  | @directed signed _ _ signing directing =>
    obtain ⟨others, message, auth, unsigned⟩ := signing.kept_of_ok
    cases directing with
    | kept absent =>
      exact ⟨fun name other _ => others name other, message, auth,
        fun none => by rw [unsigned none], fun _ => others _ to_from,
        fun given => absurd absent given⟩
    | @directed recipients again text given parse rendered reads =>
      have same : ∀ name, FieldName.canonical name ≠ Text.ofString "To" →
          (Work.replaced signed "To" text).header.values name = signed.header.values name :=
        fun name other => by rw [Work.values_replaced, if_neg other]
      have filled : text.isBlank = false := by
        obtain ⟨a, more, rfl⟩ : ∃ a more, recipients = a :: more :=
          List.exists_cons_of_ne_nil fun none => given ((eq_nil_iff_of_mapM parse).1 none)
        exact AddressList.isBlank_of_render? rendered
      refine ⟨fun name other other' => (same name other').trans (others name other), message, auth,
        fun none => by rw [same _ from_to, unsigned none], fun absent => absurd absent given,
        fun _ => ⟨recipients, text, again, parse, rendered, reads, ?_, ?_⟩⟩
      · rw [Work.values_replaced, if_pos FieldName.canonical_to]
      · refine Email.addresses_eq_ok_iff.2 ?_
        rw [Work.addresses_replaced signed FieldName.canonical_to filled, reads]

/-- **The words of the command line are refused, or take the places of what the message has.** A run
ends with a report, which is logged, exactly if a word is refused: the sender, or the first of the
recipients that is no single address. The message that it goes on with has kept all but its sender
and its recipients, and has the recipients that are read from the list in which those of the command
line have been written. Ordinary ones are found again exactly if the dots of their local parts are
in place, and their names can be written and have no runs of blanks if they have to be encoded. -/
theorem addressing (o : Options) (e : Email) (journal : Journal) :
    ∃ result events, perform (address o e) journal = (result, journal ++ events) ∧
      Addressing o e result events ∧
      (result = .error .reported ↔ IsRefused o e) ∧ Reports result events ∧
      (∀ e', result = .ok e' → HasKept o e e') ∧
      ∀ ps : List Address.Parts, IsSettled o.sender e → e.header.isReadOnly = false →
        o.recipients ≠ [] → o.recipients.mapM Address.parse = .ok (ps.map (·.address)) →
        (∀ p ∈ ps, p.IsOrdinary) →
        (HasRecipients result (ps.map (·.address)) ↔
          ∀ p ∈ ps, p.IsStable ∧ p.name.any CodePoint.isSurrogate = false) := by
  obtain ⟨result, events, performs, addressing⟩ := perform_addressing o e journal
  refine ⟨result, events, performs, addressing, addressing.eq_reported_iff, addressing.reports,
    ?_, fun ps settled writable given parse ordinary =>
      addressing.hasRecipients_iff settled writable given parse ordinary⟩
  rintro e' rfl
  exact addressing.hasKept

/-- A recipient that is an address, but is written without the quotation marks that it needs, ends
the run without a report. -/
theorem dotted_recipient_breaks :
    let word : Text := "\"a..b\"@example.org"
    let input := Utf8.encodeDropping "From: a@b.c\nTo: x@y.org\n\nhi\n"
    let outcome := run takingServer oneRule ⟨[]⟩ input [word]
    Address.parse word = .ok ⟨"a..b@example.org", []⟩ ∧ outcome.journal = [] ∧
      outcome.ending = .broken (.parse (.address (.invalidList "<a..b@example.org>"
        (.defect .improperLocalPart)))) := by
  decide +kernel

end Command

end Mailroom
