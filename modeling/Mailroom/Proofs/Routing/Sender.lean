import Mailroom.Proofs.Address.Rendered
import Mailroom.Proofs.Message.Reachable
import Mailroom.Proofs.Message.View
import Mailroom.Proofs.Rule.Condition

/-!
# Matching and sending look at the same addresses

A condition on an address field looks at the view, which shows the field as it is written in
canonical form and is read once more; an envelope has the addresses of the field itself.

* `Email.Agrees`: conditions on a field are met exactly if its first address meets them;
* `Header.KeepsFirst`: the first address of a field is still there when the addresses that a view
  shows have been written and read again;
* `Email.agrees_iff_keepsFirst`: these are the same;
* `Header.keepsFirst_iff_isLegible`: of ordinary addresses the first is kept exactly if the dots in
  all of them are in place;
* `Email.Reachable.agrees_iff`: all of it, for messages that can come about.
-/

namespace Mailroom

namespace Matcher

/-- A condition that gives the value of an address field. -/
theorem parse_value {name field : Text} (plain : CodePoint.ofChar ':' ∉ name)
    (shown : field ∈ Email.shownFields) (spelt : Text.lower name.trim = field) (value : Text) :
    parse (name ++ Text.ofString ":" ++ value) = .ok (.field ⟨field, value, none⟩) := by
  have bare : ∀ field ∈ Email.shownFields, ¬ patternSuffix <:+ field ∧ field ≠ [] := by decide
  obtain ⟨unmarked, named⟩ := bare field shown
  exact (parse_append_eq_ok_iff plain).2 ⟨_, .value spelt unmarked, named, rfl⟩

/-- A condition that gives a pattern for an address field. -/
theorem parse_pattern {name field : Text} (plain : CodePoint.ofChar ':' ∉ name)
    (shown : field ∈ Email.shownFields) (spelt : Text.lower name.trim = field ++ patternSuffix)
    {value : Text} {m : Matcher} (e : parse (name ++ Text.ofString ":" ++ value) = .ok m) :
    ∃ pattern, Pattern.parse value = .ok pattern ∧ m = .field ⟨field, value, some pattern⟩ := by
  have bare : ∀ field ∈ Email.shownFields, field ≠ [] := by decide
  rw [parse_append plain, spelt, withoutSuffix?_eq_some_iff.2 rfl] at e
  obtain ⟨pattern, compiles, e⟩ := bind_eq_ok_iff.1 e
  rw [if_neg (by simpa using bare field shown)] at e
  cases e
  exact ⟨pattern, compile_eq_ok_iff.1 compiles, rfl⟩

/-- A condition on an address is met if the first address in the view meets it. -/
theorem verdict_eq_ok_true_iff {c : Condition} (kind : c.kind = .address) {h : Header} :
    (Matcher.field c).verdict h = .ok true ↔ ∃ view a l, Email.reconcile h = .ok view ∧
      view.addresses c.field = .ok (a :: l) ∧ c.accepts a.address = .ok true := by
  simp only [verdict, Condition.valueIn, Header.address, kind]
  cases Email.reconcile h with
  | error failure => exact ⟨fun e => (by cases e), fun ⟨_, _, _, e, _⟩ => (by cases e)⟩
  | ok view =>
    simp only [bind, Except.bind]
    constructor
    · intro e
      refine ⟨view, ?_⟩
      rcases hv : view.addresses c.field with (fault | cause) | _ | ⟨a, l⟩ <;> rw [hv] at e
      · cases e
      · cases e
      · cases e
      · exact ⟨a, l, rfl, rfl, mapError_eq_ok_iff.1 e⟩
    · rintro ⟨_, a, l, e, hv, met⟩
      cases e
      rw [hv]
      exact mapError_eq_ok_iff.2 met

end Matcher

/-! ### What a view shows -/

namespace Email

open Header

/-- A field that cannot be read is there, and not blank. -/
theorem addresses_eq_error {h : Header} {field : Text} {failure : Address.Failure}
    (e : h.addresses field = .error failure) :
    ∃ f, h.find? field = some f ∧ f.first.isBlank = false ∧
      AddressList.parse f.first = .error failure := by
  unfold Header.addresses at e
  split at e
  · cases e
  · next f found =>
    split at e
    · cases e
    · next filled => exact ⟨f, found, Bool.eq_false_iff.2 filled, e⟩

/-- An address field of a view has the canonical form of that field. -/
theorem find?_reconcile {h view : Header} (shows : reconcile h = .ok view) {field : Text}
    (shown : field ∈ shownFields) :
    ∃ text, canonicalField h field = .ok text ∧
      view.find? field = text.map (⟨FieldName.canonical field, ·, []⟩) := by
  obtain ⟨sender, primary, cc, hs, ht, hc, fields⟩ := reconcile_eq_ok shows
  have lookup := lookup?_viewFields h sender primary cc
  have to_from : Text.ofString "To" ≠ Text.ofString "From" := by decide
  have cc_from : Text.ofString "Cc" ≠ Text.ofString "From" := by decide
  have cc_to : Text.ofString "Cc" ≠ Text.ofString "To" := by decide
  unfold Header.find?
  rw [fields, lookup]
  simp only [shownFields, List.mem_cons, List.not_mem_nil, or_false] at shown
  rcases shown with rfl | rfl | rfl
  · exact ⟨sender, hs, by rw [FieldName.canonical_from, if_pos rfl]⟩
  · exact ⟨primary, ht, by rw [FieldName.canonical_to, if_neg to_from, if_pos rfl]⟩
  · exact ⟨cc, hc, by rw [FieldName.canonical_cc, if_neg cc_from, if_neg cc_to, if_pos rfl]⟩

/-- What a view shows of addresses begins with the first of them. -/
theorem shownPart_cons (field : Text) (a : Address) (l : AddressList) :
    ∃ more, shownPart field (a :: l) = a :: more := by
  unfold shownPart
  split
  · exact ⟨[], rfl⟩
  · exact ⟨l, rfl⟩

/-- A view shows a field that has addresses as they are written. -/
theorem canonicalField_eq_ok {h : Header} {field : Text} {a : Address} {l : AddressList}
    (parses : h.addresses field = .ok (a :: l)) {text : Option Text}
    (canonical : canonicalField h field = .ok text) :
    ∃ shownText, text = some shownText ∧
      AddressList.render? (shownPart field (a :: l)) = some shownText := by
  obtain ⟨more, begins⟩ := shownPart_cons field a l
  rw [canonicalField_of_parses parses, begins, List.isEmpty_cons] at canonical
  rw [begins]
  cases rendered : AddressList.render? (a :: more) with
  | none =>
    rw [rendered] at canonical
    cases canonical
  | some shownText =>
    rw [rendered] at canonical
    cases canonical
    exact ⟨shownText, rfl, rfl⟩

/-- The addresses of a field that a view shows, written in canonical form and read again. -/
def readAgain (h : Header) (field : Text) : Except Address.Failure AddressList :=
  match h.addresses field with
  | .ok (a :: l) => match AddressList.render? (shownPart field (a :: l)) with
    | some text => AddressList.parse text
    | none => .ok []
  | unread => unread

/-- The addresses that are found in a view are those that it shows, written and read again. -/
theorem addresses_reconcile {h view : Header} (shows : reconcile h = .ok view) {field : Text}
    (shown : field ∈ shownFields) : view.addresses field = readAgain h field := by
  obtain ⟨text, canonical, found⟩ := find?_reconcile shows shown
  have read : view.addresses field = text.elim (.ok []) fun text =>
      if text.isBlank then .ok [] else AddressList.parse text := by
    unfold Header.addresses
    rw [found]
    cases text <;> rfl
  rw [read, readAgain]
  rcases parses : h.addresses field with (fault | cause) | _ | ⟨a, l⟩
  · -- a field with a fault goes into the view as it is, and has the fault there again
    obtain ⟨f, there, filled, fails⟩ := addresses_eq_error parses
    rw [canonicalField, Header.contains, there, parses] at canonical
    cases canonical
    rw [Option.elim, Header.first, there, Option.map_some, Option.getD_some, filled, fails]
    rfl
  · obtain ⟨f, there, -⟩ := addresses_eq_error parses
    rw [canonicalField, Header.contains, there, parses] at canonical
    cases canonical
  · rw [canonicalField_of_parses parses] at canonical
    have none : (shownPart field []).isEmpty = true := by
      unfold shownPart
      split <;> rfl
    rw [none] at canonical
    cases canonical
    rfl
  · obtain ⟨shownText, rfl, rendered⟩ := canonicalField_eq_ok parses canonical
    obtain ⟨more, begins⟩ := shownPart_cons field a l
    have filled := AddressList.isBlank_of_render? (begins ▸ rendered)
    simp only [Option.elim, rendered, filled, Bool.false_eq_true, if_false]

theorem addresses_reconcile_iff {h view : Header} (shows : reconcile h = .ok view) {field : Text}
    (shown : field ∈ shownFields) {b : Address} {more : AddressList} :
    view.addresses field = .ok (b :: more) ↔ ∃ a l text, h.addresses field = .ok (a :: l) ∧
      AddressList.render? (shownPart field (a :: l)) = some text ∧
      AddressList.parse text = .ok (b :: more) := by
  rw [addresses_reconcile shows shown, readAgain]
  constructor
  · intro e
    split at e
    · next a l parses =>
      split at e
      · next text rendered => exact ⟨a, l, text, parses, rendered, e⟩
      · cases e
    · next unread => exact absurd e (unread b more)
  · rintro ⟨a, l, text, parses, rendered, again⟩
    simp only [parses, rendered, again]

end Email

/-- The address fields that a view shows can be shown: none breaks the reading down, and no name in
it has surrogates. -/
def Header.CanBeShown (h : Header) : Prop :=
  ∀ field ∈ Email.shownFields, (∀ cause, h.addresses field ≠ .error (.breakdown cause)) ∧
    ∀ l, h.addresses field = .ok l →
      ∀ a ∈ Email.shownPart field l, a.name.any CodePoint.isSurrogate = false

/-- A header has a view exactly if its address fields can be shown. -/
theorem Header.exists_view_iff {h : Header} :
    (∃ view, Email.reconcile h = .ok view) ↔ h.CanBeShown := by
  rw [Email.exists_reconcile_eq_ok_iff]
  refine forall₂_congr fun field shown => ?_
  rcases parses : h.addresses field with (fault | cause) | l
  · obtain ⟨f, there, -⟩ := Email.addresses_eq_error parses
    rw [Email.canonicalField, Header.contains, there, parses]
    simp
  · obtain ⟨f, there, -⟩ := Email.addresses_eq_error parses
    rw [Email.canonicalField, Header.contains, there, parses]
    simp
  · rw [Email.canonicalField_of_parses parses]
    have each := AddressList.exists_render?_iff (l := Email.shownPart field l)
    simp only [ne_eq, reduceCtorEq, not_false_eq_true, implies_true, Except.ok.injEq, true_and,
      forall_eq']
    rw [← each]
    rcases Email.shownPart field l with _ | ⟨a, l⟩
    · exact ⟨fun _ => ⟨[], rfl⟩, fun _ => ⟨none, rfl⟩⟩
    · cases AddressList.render? (a :: l) with
      | none => simp
      | some text => simp

/-! ### Agreement -/

/-- Whatever its spelling, a condition on a field is met exactly if the field can be read and its
first address is the one that is asked for, or has the pattern that is asked for in it. -/
def Email.Agrees (e : Email) (field : Text) : Prop :=
  ∀ (name value : Text) (journal : Journal), CodePoint.ofChar ':' ∉ name →
    (Text.lower name.trim = field → ∀ m, Matcher.parse (name ++ ":" ++ value) = .ok m →
      ((perform m.accepts ⟨e, journal⟩).1 = .ok true ↔
        ∃ a l, e.addresses field = .ok (a :: l) ∧ a.address = value)) ∧
    (Text.lower name.trim = field ++ "/regex" →
      ∀ m, Matcher.parse (name ++ ":" ++ value) = .ok m →
        ((perform m.accepts ⟨e, journal⟩).1 = .ok true ↔
          ∃ a l pattern, e.addresses field = .ok (a :: l) ∧ Pattern.parse value = .ok pattern ∧
            pattern.occursIn a.address = .ok true))

/-- If a field has addresses, they can be shown, and the first address is still there when those
that the view shows have been written and read again. -/
def Header.KeepsFirst (h : Header) (field : Text) : Prop :=
  ∀ a l, h.addresses field = .ok (a :: l) → h.CanBeShown ∧
    ∃ text b more, AddressList.render? (Email.shownPart field (a :: l)) = some text ∧
      AddressList.parse text = .ok (b :: more) ∧ b.address = a.address

namespace Email

/-- A condition on a shown field is met exactly if the first address meets it that is found when
the addresses have been written and read again. -/
theorem accepts_iff {e : Email} (coherent : e.IsCoherent) {c : Condition}
    (shown : c.field ∈ shownFields) (journal : Journal) :
    (perform (Matcher.field c).accepts ⟨e, journal⟩).1 = .ok true ↔
      e.header.CanBeShown ∧ ∃ a l text b more,
        e.header.addresses c.field = .ok (a :: l) ∧
        AddressList.render? (shownPart c.field (a :: l)) = some text ∧
        AddressList.parse text = .ok (b :: more) ∧ c.accepts b.address = .ok true := by
  have kinds : ∀ field ∈ shownFields, FieldKind.ofField field = .address := by decide
  obtain ⟨d', performs, -⟩ := (Matcher.field c).perform_accepts (d := ⟨e, journal⟩) coherent
  rw [performs, Matcher.verdict_eq_ok_true_iff (kinds _ shown)]
  rw [← Header.exists_view_iff]
  constructor
  · rintro ⟨view, b, more, shows, found, met⟩
    obtain ⟨a, l, text, parses, rendered, again⟩ := (addresses_reconcile_iff shows shown).1 found
    exact ⟨⟨view, shows⟩, a, l, text, b, more, parses, rendered, again, met⟩
  · rintro ⟨⟨view, shows⟩, a, l, text, b, more, parses, rendered, again, met⟩
    exact ⟨view, b, more, shows,
      (addresses_reconcile_iff shows shown).2 ⟨a, l, text, parses, rendered, again⟩, met⟩

/-- A condition on a field whose first address is kept is met exactly if that address meets it. -/
theorem accepts_iff_of_keepsFirst {e : Email} (coherent : e.IsCoherent) {c : Condition}
    (shown : c.field ∈ shownFields) (keeps : e.header.KeepsFirst c.field) (journal : Journal) :
    (perform (Matcher.field c).accepts ⟨e, journal⟩).1 = .ok true ↔
      ∃ a l, e.addresses c.field = .ok (a :: l) ∧ c.accepts a.address = .ok true := by
  rw [accepts_iff coherent shown]
  simp only [addresses, mapError_eq_ok_iff]
  constructor
  · rintro ⟨-, a, l, text, b, more, parses, rendered, again, met⟩
    obtain ⟨-, text', b', more', rendered', again', same⟩ := keeps a l parses
    rw [rendered, Option.some.injEq] at rendered'
    rw [← rendered', again, Except.ok.injEq, List.cons.injEq] at again'
    rw [again'.1, same] at met
    exact ⟨a, l, parses, met⟩
  · rintro ⟨a, l, parses, met⟩
    obtain ⟨shows, text, b, more, rendered, again, same⟩ := keeps a l parses
    exact ⟨shows, a, l, text, b, more, parses, rendered, again, by rw [same]; exact met⟩

/-- **Conditions on a field and the field itself agree exactly if the first address is kept** when
the addresses are written in canonical form and read again. -/
theorem agrees_iff_keepsFirst {e : Email} (coherent : e.IsCoherent) {field : Text}
    (shown : field ∈ shownFields) : e.Agrees field ↔ e.header.KeepsFirst field := by
  constructor
  · intro agrees a l parses
    -- the condition that asks for the first address itself tells whether it is still there
    have spelt : ∀ field ∈ shownFields, CodePoint.ofChar ':' ∉ field ∧
        Text.lower field.trim = field := by decide +kernel
    obtain ⟨plain, spelt⟩ := spelt field shown
    have asked := Matcher.parse_value plain shown spelt a.address
    have met := ((agrees field a.address [] plain).1 spelt _ asked).2
      ⟨a, l, by rw [addresses, parses]; rfl, rfl⟩
    obtain ⟨shows, a', l', text, b, more, parses', rendered, again, same⟩ :=
      (accepts_iff coherent shown []).1 met
    rw [parses, Except.ok.injEq, List.cons.injEq] at parses'
    rw [← parses'.1, ← parses'.2] at rendered
    exact ⟨shows, text, b, more, rendered, again, of_decide_eq_true (Except.ok.inj same)⟩
  · intro keeps name value journal plain
    refine ⟨fun spelt m hm => ?_, fun spelt m hm => ?_⟩
    · rw [Matcher.parse_value plain shown spelt, Except.ok.injEq] at hm
      rw [← hm, accepts_iff_of_keepsFirst coherent shown keeps]
      simp only [Condition.accepts, Except.ok.injEq, decide_eq_true_eq]
    · obtain ⟨pattern, compiles, rfl⟩ := Matcher.parse_pattern plain shown spelt hm
      rw [accepts_iff_of_keepsFirst coherent shown keeps]
      simp only [Condition.accepts, compiles, Except.ok.injEq]
      constructor
      · rintro ⟨a, l, parses, met⟩
        exact ⟨a, l, pattern, parses, rfl, met⟩
      · rintro ⟨a, l, _, parses, rfl, met⟩
        exact ⟨a, l, parses, met⟩

end Email

/-! ### What is kept -/

theorem Header.isEncodable_of_addresses {h : Header} {field : Text} {l : AddressList}
    (e : h.addresses field = .ok l) : ∀ a ∈ l, a.address.IsEncodable := by
  unfold Header.addresses at e
  split at e
  · cases e
    exact fun a ha => (by cases ha)
  · split at e
    · cases e
      exact fun a ha => (by cases ha)
    · exact AddressList.isEncodable_of_parse e

/-- **Of ordinary addresses the first is kept exactly if all dots are in place**: one local part
with a dot at an end, or with two in a row, and no address is left. -/
theorem Header.keepsFirst_iff_isLegible {h : Header} {field : Text}
    (shown : field ∈ Email.shownFields) {l : AddressList} (parses : h.addresses field = .ok l)
    {ps : List Address.Parts} (parts : Email.shownPart field l = ps.map (·.address))
    (ordinary : ∀ p ∈ ps, p.IsOrdinary) :
    h.KeepsFirst field ↔ ps = [] ∨ h.CanBeShown ∧
      ∀ p ∈ ps, Address.LocalPart.IsLegible p.localPart := by
  constructor
  · intro keeps
    rcases l with _ | ⟨a, l⟩
    · have none : Email.shownPart field [] = [] := by
        unfold Email.shownPart
        split <;> rfl
      exact .inl (List.map_eq_nil_iff.1 (parts.symm.trans none))
    · obtain ⟨shows, text, b, more, rendered, again, -⟩ := keeps a l parses
      rw [parts] at rendered
      exact .inr ⟨shows, AddressList.isLegible_of_parse_rendered ordinary rendered again⟩
  · rintro legible a l' parses'
    rw [parses, Except.ok.injEq] at parses'
    rw [parses'] at parts parses
    obtain ⟨more, begins⟩ := Email.shownPart_cons field a l'
    obtain ⟨p, ps, rfl⟩ : ∃ p ps', ps = p :: ps' := by
      cases ps with
      | nil => rw [begins] at parts; cases parts
      | cons p ps => exact ⟨p, ps, rfl⟩
    -- the view shows the first address in any case, and it is the first of the parts
    have first : a = p.address := by
      rw [begins] at parts
      exact (List.cons.inj parts).1
    obtain ⟨shows, legible⟩ := legible.resolve_left (List.cons_ne_nil _ _)
    obtain ⟨view, reconciled⟩ := Header.exists_view_iff.2 shows
    obtain ⟨text, canonical, -⟩ := Email.find?_reconcile reconciled shown
    obtain ⟨shownText, -, rendered⟩ := Email.canonicalField_eq_ok parses canonical
    have member : ∀ q ∈ p :: ps, q.address ∈ a :: l' := fun q hq =>
      Email.mem_of_mem_shownPart (parts ▸ List.mem_map_of_mem hq)
    have again := AddressList.parse_rendered (List.cons_ne_nil p ps) ordinary legible
      (fun q hq => Header.isUnbroken_of_addresses parses _ (member q hq))
      (fun q hq => Header.isEncodable_of_addresses parses _ (member q hq)) (parts ▸ rendered)
    exact ⟨shows, shownText, p.again.address, _, rendered, again, by rw [first]; rfl⟩

/-- What conditions on the address fields of a message that has come about say of it: they agree
with a field exactly if its first address is kept, of ordinary addresses exactly if the dots of all
are in place; and a message is handed on, if at all, under the first address of `From`. -/
theorem Email.Reachable.agrees_iff {e : Email} (reached : e.Reachable) {field : Text}
    (shown : field ∈ Email.shownFields) :
    (e.Agrees field ↔ e.header.KeepsFirst field) ∧
      (∀ (l : AddressList) (ps : List Address.Parts), e.addresses field = .ok l →
        Email.shownPart field l = ps.map (·.address) → (∀ p ∈ ps, p.IsOrdinary) →
        (e.Agrees field ↔ ps = [] ∨ e.header.CanBeShown ∧
          ∀ p ∈ ps, Address.LocalPart.IsLegible p.localPart)) ∧
      ∀ (mailer : Mailer) (host : Text) (journal : Journal),
        (perform (Work.send mailer host) ⟨e, journal⟩).2.journal = journal ∨
          ∃ record dispatch a l, (perform (Work.send mailer host) ⟨e, journal⟩).2.journal =
              journal ++ [.log record, .dispatch dispatch] ++ (mailer dispatch).journal ∧
            e.addresses "from" = .ok (a :: l) ∧ dispatch.sender = a.address := by
  have agrees := Email.agrees_iff_keepsFirst reached.isCoherent shown
  refine ⟨agrees, fun l ps parses parts ordinary => ?_, fun mailer host journal => ?_⟩
  · rw [agrees]
    exact Header.keepsFirst_iff_isLegible shown (mapError_eq_ok_iff.1 parses) parts ordinary
  · obtain ⟨d', refreshed, performs⟩ :=
      Work.perform_send mailer host (d := ⟨e, journal⟩) reached.isCoherent
    rw [performs]
    cases sent : Email.dispatch? e.header e.message e.auth host with
    | error failure => exact .inl refreshed.journal
    | ok both =>
      obtain ⟨dispatch, text⟩ := both
      obtain ⟨sender, recipients, envelope, -, whole⟩ := Email.dispatch?_eq_ok sent
      obtain ⟨⟨senders, first⟩, -⟩ := Email.envelope?_eq_ok envelope
      refine .inr ⟨⟨.debug, text⟩, dispatch, sender, senders, ?_, ?_, ?_⟩
      · show d'.journal ++ _ ++ _ = _
        rw [refreshed.journal]
      · rw [Email.addresses, first]
        rfl
      · rw [whole]

/-! ### Some messages -/

/-- A message to two people, one in quotation marks at a domain literal, one with a foreign name. -/
def Email.listed : Email :=
  .ofParts ⟨[⟨"From", "Ann <ann@example.org>", []⟩,
    ⟨"To", "\"b c\"@[10.0.0.1], =?utf-8?q?J=C3=BCrg?= <j.k@example.org>", []⟩], false, 2⟩
    [0x68, 0x69]

/-- Conditions on the recipients of such a message agree with them. -/
theorem Email.listed_agrees :
    Email.read false (Utf8.encodeDropping ("From: Ann <ann@example.org>\n" ++
        "To: \"b c\"@[10.0.0.1], =?utf-8?q?J=C3=BCrg?= <j.k@example.org>\n\nhi\n")) = .ok .listed ∧
      Email.listed.Agrees "to" := by
  have read : Email.read false (Utf8.encodeDropping ("From: Ann <ann@example.org>\n" ++
      "To: \"b c\"@[10.0.0.1], =?utf-8?q?J=C3=BCrg?= <j.k@example.org>\n\nhi\n")) =
      .ok .listed := by decide +kernel
  let ps : List Address.Parts := [⟨[], "b c", "[10.0.0.1]"⟩,
    ⟨Text.ofString "J" ++ CodePoint.ofNat 0xFC :: Text.ofString "rg", "j.k", "example.org"⟩]
  have parses : Email.listed.addresses "to" = .ok (ps.map (·.address)) := by decide +kernel
  have ordinary : ∀ p ∈ ps, p.IsOrdinary := by
    refine List.forall_mem_cons.2 ⟨⟨by decide, by decide, ?_, by decide⟩,
      List.forall_mem_cons.2 ⟨⟨by decide, by decide, ?_, by decide⟩, by simp⟩⟩
    · exact .literal (d := "10.0.0.1") (by decide +kernel)
    · exact .dotted (by decide) (by decide +kernel) (by decide)
  have shows : Email.listed.header.CanBeShown := by
    refine Header.exists_view_iff.1 ?_
    have : (Email.reconcile Email.listed.header).isOk = true := by decide +kernel
    cases shown : Email.reconcile Email.listed.header with
    | error failure => rw [shown] at this; cases this
    | ok view => exact ⟨view, rfl⟩
  have shown : ("to" : Text) ∈ Email.shownFields := by decide
  have agrees := (Email.reachable_read read).agrees_iff shown
  exact ⟨read, (agrees.2.1 _ ps parses rfl ordinary).2 (.inr ⟨shows, by decide⟩)⟩

/-- A message whose sender has two dots in a row, between quotation marks. -/
def Email.dotty : Email :=
  .ofParts ⟨[⟨"From", "\"a..b\"@example.org", []⟩, ⟨"To", "x@y.org", []⟩], false, 2⟩ [0x68, 0x69]

/-- The marks are left out when the address is written, and the condition that asks for the sender
is not met. -/
theorem Email.dotty_disagrees :
    Email.read false (Utf8.encodeDropping "From: \"a..b\"@example.org\nTo: x@y.org\n\nhi\n") =
        .ok .dotty ∧
      Email.dotty.addresses "from" = .ok [⟨"a..b@example.org", []⟩] ∧
      Matcher.parse "from:a..b@example.org" =
        .ok (.field ⟨"from", "a..b@example.org", none⟩) ∧
      (perform (Matcher.field ⟨"from", "a..b@example.org", none⟩).accepts ⟨.dotty, []⟩).1 =
        .ok false ∧
      ¬ Email.dotty.Agrees "from" := by
  have parses : Email.dotty.addresses "from" = .ok [⟨"a..b@example.org", []⟩] := by decide +kernel
  have asked : Matcher.parse "from:a..b@example.org" =
      .ok (.field ⟨"from", "a..b@example.org", none⟩) := by decide +kernel
  have unmet : (perform (Matcher.field ⟨"from", "a..b@example.org", none⟩).accepts
      ⟨.dotty, []⟩).1 = .ok false := by decide +kernel
  refine ⟨by decide +kernel, parses, asked, unmet, fun agrees => ?_⟩
  have met := ((agrees "from" "a..b@example.org" [] (by decide)).1 (by decide +kernel) _ asked).2
    ⟨_, _, parses, rfl⟩
  rw [unmet] at met
  cases met

end Mailroom
