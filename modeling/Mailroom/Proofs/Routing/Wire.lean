import Mailroom.Proofs.Header.Lines
import Mailroom.Proofs.Routing.Sender

/-!
# The addresses on the wire and in the envelope

An envelope has the addresses of the header. The lines that go out have them in canonical form, and
whoever reads these gets the same addresses only if writing and reading changes none of them.

* `Header.shownValues`, `Header.readShown`: what a view shows for a name, and the addresses in it;
* `Header.ShowsEnvelope`: the lines that go out have the addresses of an envelope;
* `Address.Parts.IsStable`: an address is the same when it has been written and read;
* `Header.showsEnvelope_iff_isStable`: when the lines have the addresses of the envelope;
* `Email.Reachable.wire_addresses`: all of it, for messages that have come about.
-/

namespace Mailroom

namespace Header

/-- The values that are written for a name. -/
def shownValues (view : Header) (name : Text) : List Text :=
  (view.written.filter fun f => f.name = name).map (·.first)

/-- The addresses on the lines for a name, one line after the other. -/
def readShown (view : Header) (name : Text) : Except Address.Failure AddressList :=
  ((view.shownValues name).mapM AddressList.parse).map List.flatten

open Email

variable {h view : Header} {field : Text}

theorem nodup_reconcile (shows : reconcile h = .ok view) : (view.fields.map (·.name)).Nodup := by
  obtain ⟨sender, primary, cc, -, -, -, fields⟩ := reconcile_eq_ok shows
  rw [fields]
  exact nodup_viewFields h sender primary cc

/-- For an address field, a view shows the canonical form of that field and nothing else. -/
theorem shownValues_reconcile (shows : reconcile h = .ok view) (shown : field ∈ shownFields) :
    ∃ text, canonicalField h field = .ok text ∧
      view.shownValues (FieldName.canonical field) = text.toList := by
  obtain ⟨text, canonical, found⟩ := find?_reconcile shows shown
  refine ⟨text, canonical, ?_⟩
  have visible : ∀ field ∈ shownFields, isHidden (FieldName.canonical field) = false := by decide
  have all : (view.written.filter fun f => f.name = FieldName.canonical field).Perm
      (view.find? field).toList := by
    rw [Header.find?, ← filter_name_eq (nodup_reconcile shows), written, List.filter_filter]
    refine ((perm_sorted view.fields).filter _).trans (.of_eq (List.filter_congr fun f _ => ?_))
    by_cases hf : f.name = FieldName.canonical field
    · simp [hf, visible field shown]
    · simp [hf]
  rw [found] at all
  unfold shownValues
  cases text with
  | none => rw [List.perm_nil.1 all]; rfl
  | some text => rw [List.perm_singleton.1 all]; rfl

/-- An address field is written in one line, or not at all if it has no addresses. -/
theorem map_shownValues_reconcile (shows : reconcile h = .ok view) (shown : field ∈ shownFields)
    {l : AddressList} (parses : h.addresses field = .ok l) :
    (view.shownValues (FieldName.canonical field)).map some =
      if l = [] then [] else [AddressList.render? (shownPart field l)] := by
  obtain ⟨text, canonical, values⟩ := shownValues_reconcile shows shown
  rw [values]
  cases l with
  | nil =>
    have none : (shownPart field []).isEmpty = true := by
      unfold shownPart
      split <;> rfl
    rw [canonicalField_of_parses parses, if_pos none] at canonical
    cases canonical
    rfl
  | cons a l =>
    obtain ⟨shownText, rfl, rendered⟩ := canonicalField_eq_ok parses canonical
    rw [rendered]
    rfl

theorem readShown_of_shownValues {name text : Text} (values : view.shownValues name = [text]) :
    view.readShown name = AddressList.parse text := by
  rw [readShown, values]
  simp only [List.mapM_cons, List.mapM_nil]
  cases AddressList.parse text with
  | error failure => rfl
  | ok l => exact congrArg Except.ok (List.append_nil l)

end Header

/-! ### Addresses that stay the same -/

namespace Address.Parts

/-- The address is the same when it has been written and read: the dots of its local part are in
place, and a name that has to be encoded has no run of blanks other than single spaces. -/
def IsStable (p : Address.Parts) : Prop :=
  LocalPart.IsLegible p.localPart ∧ (p.name.isAscii = true ∨ p.name.squeeze = p.name)

instance (p : Address.Parts) : Decidable p.IsStable := inferInstanceAs (Decidable (_ ∧ _))

theorem again_address_eq_iff {p : Address.Parts} :
    p.again.address = p.address ↔ p.name.isAscii = true ∨ p.name.squeeze = p.name := by
  have : p.again.address = p.address ↔ p.again.name = p.name :=
    ⟨fun same => congrArg Address.name same, fun same => congrArg (Address.mk p.spec) same⟩
  rw [this, again]
  cases p.name.isAscii <;> simp

end Address.Parts

namespace Header

open Email
variable {h view : Header} {field : Text}

/-- Ordinary addresses are read from the lines exactly if the dots in all of them are in place, and
then runs of blanks have become single spaces. -/
theorem readShown_eq_ok_iff (shows : reconcile h = .ok view) (shown : field ∈ shownFields)
    {l : AddressList} (parses : h.addresses field = .ok l) {ps : List Address.Parts}
    (parts : shownPart field l = ps.map (·.address)) (ordinary : ∀ p ∈ ps, p.IsOrdinary)
    {found : AddressList} :
    view.readShown (FieldName.canonical field) = .ok found ↔
      (∀ p ∈ ps, Address.LocalPart.IsLegible p.localPart) ∧ found = ps.map (·.again.address) := by
  obtain ⟨text, canonical, values⟩ := shownValues_reconcile shows shown
  cases l with
  | nil =>
    obtain rfl : ps = [] := by
      have none : shownPart field [] = [] := by
        unfold shownPart
        split <;> rfl
      exact List.map_eq_nil_iff.1 (parts.symm.trans none)
    have values := map_shownValues_reconcile shows shown parses
    rw [if_pos rfl, List.map_eq_nil_iff] at values
    rw [readShown, values]
    constructor
    · intro e
      cases e
      exact ⟨fun p hp => (by cases hp), rfl⟩
    · rintro ⟨-, rfl⟩
      rfl
  | cons a l =>
    obtain ⟨shownText, rfl, rendered⟩ := canonicalField_eq_ok parses canonical
    rw [readShown_of_shownValues values]
    have some_part : ps ≠ [] := by
      rintro rfl
      obtain ⟨more, begins⟩ := shownPart_cons field a l
      rw [begins] at parts
      cases parts
    have member : ∀ p ∈ ps, p.address ∈ a :: l := fun p hp =>
      mem_of_mem_shownPart (parts ▸ List.mem_map_of_mem hp)
    rw [parts] at rendered
    -- what can be read at all is legible, and what is legible is read in one way only
    have again (legible : ∀ p ∈ ps, Address.LocalPart.IsLegible p.localPart) :=
      AddressList.parse_rendered some_part ordinary legible
        (fun p hp => isUnbroken_of_addresses parses _ (member p hp))
        (fun p hp => isEncodable_of_addresses parses _ (member p hp)) rendered
    constructor
    · intro e
      have legible := AddressList.isLegible_of_parse_rendered ordinary rendered e
      rw [again legible] at e
      exact ⟨legible, (Except.ok.inj e).symm⟩
    · rintro ⟨legible, rfl⟩
      exact again legible

/-- The lines that go out have the addresses of an envelope, with their names: the one for `From`
has the sender alone, and those for `To` and `Cc` have the recipients that are not hidden. -/
def ShowsEnvelope (view : Header) (sender : Address) (recipients : AddressList) : Prop :=
  view.readShown "From" = .ok [sender] ∧
    ∃ primary cc, view.readShown "To" = .ok primary ∧ view.readShown "Cc" = .ok cc ∧
      primary ++ cc = recipients

/-- **The lines that go out have the addresses of the envelope exactly if all of these stay the
same** when they are written and read, as far as they are ordinary. -/
theorem showsEnvelope_iff_isStable (shows : reconcile h = .ok view) {p : Address.Parts}
    {senders : AddressList} {ps qs : List Address.Parts}
    (hs : h.addresses "from" = .ok (p.address :: senders))
    (ht : h.addresses "to" = .ok (ps.map (·.address)))
    (hc : h.addresses "cc" = .ok (qs.map (·.address)))
    (ordinary : ∀ x ∈ p :: (ps ++ qs), x.IsOrdinary) :
    view.ShowsEnvelope p.address ((ps ++ qs).map (·.address)) ↔
      ∀ x ∈ p :: (ps ++ qs), x.IsStable := by
  simp only [List.forall_mem_cons, List.forall_mem_append] at ordinary ⊢
  obtain ⟨ordinaryFrom, ordinaryTo, ordinaryCc⟩ := ordinary
  have readFrom : view.readShown "From" = .ok [p.address] ↔ (∀ x ∈ [p],
      Address.LocalPart.IsLegible x.localPart) ∧ [p.address] = [p].map (·.again.address) := by
    rw [← FieldName.canonical_from]
    exact readShown_eq_ok_iff shows (by decide) hs rfl (List.forall_mem_singleton.2 ordinaryFrom)
  have readTo {l : AddressList} : view.readShown "To" = .ok l ↔ (∀ x ∈ ps,
      Address.LocalPart.IsLegible x.localPart) ∧ l = ps.map (·.again.address) := by
    rw [← FieldName.canonical_to]
    exact readShown_eq_ok_iff shows (by decide) ht rfl ordinaryTo
  have readCc {l : AddressList} : view.readShown "Cc" = .ok l ↔ (∀ x ∈ qs,
      Address.LocalPart.IsLegible x.localPart) ∧ l = qs.map (·.again.address) := by
    rw [← FieldName.canonical_cc]
    exact readShown_eq_ok_iff shows (by decide) hc rfl ordinaryCc
  constructor
  · rintro ⟨hfrom, primary, cc, hto, hcc, same⟩
    obtain ⟨legible, first⟩ := readFrom.1 hfrom
    obtain ⟨legibleTo, rfl⟩ := readTo.1 hto
    obtain ⟨legibleCc, rfl⟩ := readCc.1 hcc
    rw [← List.map_append, List.map_inj_left] at same
    have steady (x : Address.Parts) (hx : x ∈ ps ++ qs) :=
      Address.Parts.again_address_eq_iff.1 (same x hx)
    have firstSteady := Address.Parts.again_address_eq_iff.1 (List.cons.inj first).1.symm
    exact ⟨⟨legible p List.mem_cons_self, firstSteady⟩,
      fun x hx => ⟨legibleTo x hx, steady x (List.mem_append_left _ hx)⟩,
      fun x hx => ⟨legibleCc x hx, steady x (List.mem_append_right _ hx)⟩⟩
  · rintro ⟨⟨legible, name⟩, stableTo, stableCc⟩
    refine ⟨readFrom.2 ⟨List.forall_mem_singleton.2 legible, ?_⟩, _, _,
      readTo.2 ⟨fun x hx => (stableTo x hx).1, rfl⟩,
      readCc.2 ⟨fun x hx => (stableCc x hx).1, rfl⟩, ?_⟩
    · rw [List.map_singleton, Address.Parts.again_address_eq_iff.2 name]
    · rw [← List.map_append, List.map_inj_left]
      exact fun x hx => Address.Parts.again_address_eq_iff.2
        ((List.mem_append.1 hx).elim (fun hx => (stableTo x hx).2) fun hx => (stableCc x hx).2)

end Header

/-! ### Messages that are handed on -/

namespace Header

/-- The lines of a written header for a name have the values that are shown for it. -/
theorem linesFor_eq_shownValues {view : Header} {head : Octets} (e : view.write? = some head)
    (nonempty : view.written ≠ [])
    (clean : ∀ f ∈ view.written, f.name.IsName ∧ f.first.IsUnbroken) :
    ∀ name ∈ ([Text.ofString "From", Text.ofString "To", Text.ofString "Cc"] : List Text),
      ((view.shownValues name).map fun value => name ++ Text.ofString ": " ++ value).mapM
        Utf8.encode? = some (head.linesFor name) := by
  have plain : ∀ name ∈
      ([Text.ofString "From", Text.ofString "To", Text.ofString "Cc"] : List Text),
      name.IsName ∧ (∀ c ∈ name, c.val < 0x80) ∧ Utf8.encode? (name ++ Text.ofString ": ") =
        some (Utf8.encodeDropping (name ++ Text.ofString ": ")) := by decide
  intro name hname
  obtain ⟨isName, ascii, encoded⟩ := plain name hname
  rw [← linesFor_write? e nonempty clean isName ascii encoded, shownValues, List.map_map]
  congr 1
  refine List.map_congr_left fun f hf => ?_
  have : f.name = name := by simpa using (List.mem_filter.1 hf).2
  rw [line, this]
  rfl

end Header

namespace Email

/-- A dispatch of a message: the addresses of its header in the envelope, and the view of that
header, in which each address field that has any addresses is one line. -/
structure IsSentAs (e : Email) (dispatch : Dispatch) (view : Header) (head : Octets)
    (first : Address) (primary cc bcc : AddressList) : Prop where
  sender_eq : e.sender = .ok (some first)
  primary_eq : e.addresses "to" = .ok primary
  cc_eq : e.addresses "cc" = .ok cc
  bcc_eq : e.addresses "bcc" = .ok bcc
  sender : dispatch.sender = first.address
  recipients : dispatch.recipients = AddressList.addresses (primary ++ cc ++ bcc)
  shown : reconcile e.header = .ok view
  written : view.write? = some head
  message : dispatch.message = head ++ [0x0D, 0x0A, 0x0D, 0x0A] ++ e.message
  from_line : (view.shownValues "From").map some = [AddressList.render? [first]]
  to_line : (view.shownValues "To").map some = [AddressList.render? primary]
  cc_line : (view.shownValues "Cc").map some =
    if cc = [] then [] else [AddressList.render? cc]

theorem isSentAs_of_dispatch? {e : Email} {host : Text} {dispatch : Dispatch} {text : Option Text}
    (sent : dispatch? e.header e.message e.auth host = .ok (dispatch, text)) :
    ∃ view head first primary cc bcc, e.IsSentAs dispatch view head first primary cc bcc := by
  obtain ⟨first, recipients, envelope, octets, whole⟩ := dispatch?_eq_ok sent
  obtain ⟨senders, primary, cc, bcc, hs, ht, hc, hb, some_recipient, rfl⟩ :=
    envelope?_eq_ok_iff.1 envelope
  obtain ⟨view, head, shows, writes, message⟩ := octets?_eq_ok octets
  have fromLine := Header.map_shownValues_reconcile shows (by decide) hs
  have toLine := Header.map_shownValues_reconcile shows (by decide) ht
  have ccLine := Header.map_shownValues_reconcile shows (by decide) hc
  rw [FieldName.canonical_from, if_neg (List.cons_ne_nil _ _)] at fromLine
  rw [FieldName.canonical_to, if_neg some_recipient] at toLine
  rw [FieldName.canonical_cc] at ccLine
  exact ⟨view, head, first, primary, cc, bcc, sender_eq_ok_some_iff.2 ⟨senders, hs⟩,
    addresses_eq_ok_iff.2 ht, addresses_eq_ok_iff.2 hc, addresses_eq_ok_iff.2 hb, by rw [whole],
    by rw [whole], shows, writes, message, fromLine, toLine, ccLine⟩

/-- What a message that has come about shows of its addresses when it is handed on. The lines for
`From`, `To` and `Cc` are those of the view, unless a name is none or a value has a break; and they
have the addresses and the names of the envelope, as far as these are ordinary, exactly if all of
them stay the same when they are written and read. -/
theorem Reachable.wire_addresses {e : Email} (reached : e.Reachable) (mailer : Mailer)
    (host : Text) (journal : Journal) :
    (perform (Work.send mailer host) ⟨e, journal⟩).2.journal = journal ∨
      ∃ text dispatch view head first primary cc bcc,
        (perform (Work.send mailer host) ⟨e, journal⟩).2.journal =
          journal ++ [.log ⟨.debug, text⟩, .dispatch dispatch] ++ (mailer dispatch).journal ∧
        e.IsSentAs dispatch view head first primary cc bcc ∧
        ((∀ f ∈ view.written, f.name.IsName ∧ f.first.IsUnbroken) →
          ∀ name ∈ ([Text.ofString "From", Text.ofString "To", Text.ofString "Cc"] : List Text),
            ((view.shownValues name).map fun value => name ++ Text.ofString ": " ++ value).mapM
              Utf8.encode? = some (head.linesFor name)) ∧
        ∀ (p : Address.Parts) (ps qs : List Address.Parts), first = p.address →
          primary = ps.map (·.address) → cc = qs.map (·.address) →
          (∀ x ∈ p :: (ps ++ qs), x.IsOrdinary) →
          (view.ShowsEnvelope first (primary ++ cc) ↔ ∀ x ∈ p :: (ps ++ qs), x.IsStable) := by
  rcases reached.journal_send mailer host journal with ⟨-, -, same⟩ | ⟨dispatch, text, sent, whole⟩
  · exact .inl same
  obtain ⟨view, head, first, primary, cc, bcc, sentAs⟩ := isSentAs_of_dispatch? sent
  refine .inr ⟨text, dispatch, view, head, first, primary, cc, bcc, whole, sentAs, ?_, ?_⟩
  · refine Header.linesFor_eq_shownValues sentAs.written fun none => ?_
    have line := sentAs.from_line
    rw [Header.shownValues, none] at line
    cases line
  · rintro p ps qs rfl rfl rfl ordinary
    obtain ⟨senders, hs⟩ := sender_eq_ok_some_iff.1 sentAs.sender_eq
    rw [← List.map_append]
    exact Header.showsEnvelope_iff_isStable sentAs.shown hs
      (addresses_eq_ok_iff.1 sentAs.primary_eq) (addresses_eq_ok_iff.1 sentAs.cc_eq) ordinary

/-! ### Some messages -/

/-- A message with a foreign name, a name in quotation marks and a copy for somebody else. -/
def copied : Email :=
  .ofParts ⟨[⟨"From", "=?utf-8?q?J=C3=BCrg?= <j.k@example.org>", []⟩,
    ⟨"To", "\"Say \\\"hi\\\"  twice\" <\"b c\"@[10.0.0.1]>", []⟩, ⟨"Cc", "z@example.org", []⟩],
    false, 3⟩ [0x68, 0x69]

/-- The lines of such a message have the addresses and the names of its envelope. -/
theorem copied_wire_addresses :
    Email.read false (Utf8.encodeDropping ("From: =?utf-8?q?J=C3=BCrg?= <j.k@example.org>\n" ++
        "To: \"Say \\\"hi\\\"  twice\" <\"b c\"@[10.0.0.1]>\nCc: z@example.org\n\nhi\n")) =
        .ok copied ∧
      ∃ dispatch view head first primary cc,
        (perform (Work.send .accepting "h") ⟨copied, []⟩).2.journal.dispatches = [dispatch] ∧
        copied.IsSentAs dispatch view head first primary cc [] ∧
        view.ShowsEnvelope first (primary ++ cc) := by
  have read : Email.read false (Utf8.encodeDropping (
      "From: =?utf-8?q?J=C3=BCrg?= <j.k@example.org>\n" ++
        "To: \"Say \\\"hi\\\"  twice\" <\"b c\"@[10.0.0.1]>\nCc: z@example.org\n\nhi\n")) =
      .ok copied := by decide +kernel
  let p : Address.Parts := ⟨Text.ofString "J" ++ CodePoint.ofNat 0xFC :: Text.ofString "rg", "j.k",
    "example.org"⟩
  let ps : List Address.Parts := [⟨"Say \"hi\"  twice", "b c", "[10.0.0.1]"⟩]
  let qs : List Address.Parts := [⟨[], "z", "example.org"⟩]
  have ordinary : ∀ x ∈ p :: (ps ++ qs), x.IsOrdinary := by
    refine List.forall_mem_cons.2 ⟨⟨by decide, by decide, ?_, by decide⟩,
      List.forall_mem_cons.2 ⟨⟨by decide, by decide, ?_, by decide⟩,
        List.forall_mem_cons.2 ⟨⟨by decide, by decide, ?_, by decide⟩, by simp⟩⟩⟩
    · exact .dotted (by decide) (by decide +kernel) (by decide)
    · exact .literal (d := "10.0.0.1") (by decide +kernel)
    · exact .dotted (by decide) (by decide +kernel) (by decide)
  refine ⟨read, ?_⟩
  rcases (reachable_read read).wire_addresses .accepting "h" [] with
    none | ⟨text, dispatch, view, head, first, primary, cc, bcc, journal, sentAs, -, shows⟩
  · have : (perform (Work.send .accepting "h") ⟨copied, []⟩).2.journal ≠ [] := by decide +kernel
    exact absurd none this
  · have sender : copied.sender = .ok (some p.address) := by decide +kernel
    have addressed : copied.addresses "to" = .ok (ps.map (·.address)) := by decide +kernel
    have copies : copied.addresses "cc" = .ok (qs.map (·.address)) := by decide +kernel
    have hidden : copied.addresses "bcc" = .ok [] := by decide +kernel
    rw [sentAs.sender_eq, Except.ok.injEq, Option.some.injEq] at sender
    rw [sentAs.primary_eq, Except.ok.injEq] at addressed
    rw [sentAs.cc_eq, Except.ok.injEq] at copies
    rw [sentAs.bcc_eq, Except.ok.injEq] at hidden
    subst hidden
    refine ⟨dispatch, view, head, first, primary, cc, ?_, sentAs, ?_⟩
    · rw [journal]
      rfl
    · exact (shows p ps qs sender addressed copies ordinary).2 (by decide)

/-- A message whose sender has two dots in a row, between quotation marks. -/
def doubled : Email :=
  .ofParts ⟨[⟨"From", "\"a..b\"@example.org", []⟩, ⟨"To", "x@y.org", []⟩], false, 2⟩ [0x68, 0x69]

/-- The line for such a sender has no address at all that can be read. -/
theorem doubled_shows_nobody :
    Email.read false (Utf8.encodeDropping "From: \"a..b\"@example.org\nTo: x@y.org\n\nhi\n") =
        .ok doubled ∧
      doubled.sender = .ok (some ⟨"a..b@example.org", []⟩) ∧
      (perform (Work.send .accepting "h") ⟨doubled, []⟩).2.journal.dispatches =
        [⟨"h", none, "a..b@example.org", ["x@y.org"],
          Utf8.encodeDropping "From: <a..b@example.org>\r\nTo: <x@y.org>\r\n\r\nhi"⟩] ∧
      (AddressList.parse "<a..b@example.org>").isOk = false ∧
      ∃ view, reconcile doubled.header = .ok view ∧
        ¬ view.ShowsEnvelope ⟨"a..b@example.org", []⟩ [⟨"x@y.org", []⟩] := by
  refine ⟨by decide +kernel, by decide +kernel, by decide +kernel, by decide +kernel,
    ⟨[⟨"From", "<a..b@example.org>", []⟩, ⟨"To", "<x@y.org>", []⟩], true, 4⟩, by decide +kernel,
    fun shows => ?_⟩
  have unread : (Header.readShown ⟨[⟨"From", "<a..b@example.org>", []⟩, ⟨"To", "<x@y.org>", []⟩],
      true, 4⟩ "From").isOk = false := by decide +kernel
  rw [shows.1] at unread
  cases unread

end Email

end Mailroom
