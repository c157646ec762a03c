import Mailroom.Proofs.Address.Entered
import Mailroom.Proofs.Command.Steps
import Mailroom.Proofs.Header.History
import Mailroom.Proofs.Text.Blank

/-!
# Setting the sender and the recipients

* `Work.values_replaced`, `Work.addresses_replaced`: a text put in the place of a field is its one
  value, and is what addresses are read from;
* `Work.Setting`: what comes of a text that is set for a field;
* `Work.IsSetTo`: a text without the blanks at its ends is what a field has, and all else is as it
  was;
* `Work.IsReadAs`: a text for which these blanks make no difference;
* `Work.setters`: each setter comes to this, and what is read from such a text is read again.
-/

namespace Mailroom

/-- A text is one address if it is a list of one. -/
theorem Address.parse_eq_ok_iff {value : Text} {a : Address} :
    Address.parse value = .ok a ↔ AddressList.parse value = .ok [a] := by
  unfold Address.parse
  constructor
  · intro e
    obtain ⟨l, parses, e⟩ := bind_eq_ok_iff.1 e
    split at e
    · cases e
      exact parses
    · cases e
  · intro e
    rw [e]
    rfl

namespace Work

/-! ### A text in the place of a field -/

/-- A text put in the place of a field is its one value, and no other field is touched. -/
theorem values_replaced (e : Email) (key value name : Text) :
    (replaced e key value).header.values name =
      if FieldName.canonical name = key then [value] else e.header.values name :=
  Header.valuesOf_replaceValues key value (FieldName.canonical name) e.header.fields

/-- What is read from a field in whose place a text has been put is read from that text. -/
theorem addresses_replaced (e : Email) {key value name : Text}
    (same : FieldName.canonical name = key) (filled : value.isBlank = false) :
    (replaced e key value).header.addresses name = AddressList.parse value := by
  have values : Header.valuesOf (replaced e key value).header.fields (FieldName.canonical name) =
      [value] := by
    show Header.valuesOf (Header.replaceValues key value e.header.fields) _ = _
    rw [Header.valuesOf_replaceValues, if_pos same]
  rw [Header.addresses_eq, values]
  dsimp only
  rw [if_neg (by simp [filled])]

/-! ### What the setters do -/

/-- A header that is closed refuses every text. -/
theorem perform_setHeader_of_closed {d : Desk} (closed : d.email.header.isReadOnly = true)
    (field value : Text) : perform (setHeader field value) d = (.error (.header .readOnly), d) := by
  unfold setHeader
  rw [perform_changeHeader, Header.set, if_pos closed]

/-- What comes of a text that is set for a field, given what has been read from it. -/
inductive Setting (key value : Text) (e : Email) (parsed : Except Address.Failure AddressList) :
    Except Failure Unit → Email → Prop where
  | unread {failure : Address.Failure} (unread : parsed = .error failure) :
      Setting key value e parsed (.error (.ofAddress failure)) e
  | closed {l : AddressList} (reads : parsed = .ok l) (closed : e.header.isReadOnly = true) :
      Setting key value e parsed (.error (.header .readOnly)) e
  | set {l : AddressList} (reads : parsed = .ok l) (writable : e.header.isReadOnly = false) :
      Setting key value e parsed (.ok ()) (replaced e key value.trim)

theorem setting_setRead {α : Type} (parsed : Except Address.Failure α) (list : α → AddressList)
    (field value : Text) (e : Email) (journal : Journal) :
    ∃ result e', perform (ofExcept (parsed.mapError Failure.ofAddress) >>=
        fun _ => setHeader field value.trim) ⟨e, journal⟩ = (result, ⟨e', journal⟩) ∧
      Setting (FieldName.canonical field) value e (parsed.map list) result e' := by
  rw [perform_setRead]
  cases parsed with
  | error failure => exact ⟨_, e, rfl, .unread rfl⟩
  | ok a =>
    cases closed : e.header.isReadOnly with
    | true =>
      exact ⟨_, e, perform_setHeader_of_closed (d := ⟨e, journal⟩) closed field value.trim,
        .closed rfl closed⟩
    | false =>
      exact ⟨_, _, perform_setHeader (d := ⟨e, journal⟩) closed field value.trim,
        .set rfl closed⟩

theorem setting_setSender (value : Text) (e : Email) (journal : Journal) :
    ∃ result e', perform (setSender value) ⟨e, journal⟩ = (result, ⟨e', journal⟩) ∧
      Setting "From" value e ((Address.parse value).map ([·])) result e' := by
  have setting := setting_setRead (Address.parse value) ([·]) "from" value e journal
  rwa [FieldName.canonical_from] at setting

theorem setting_setRecipients (value : Text) (e : Email) (journal : Journal) :
    ∃ result e', perform (setRecipients value) ⟨e, journal⟩ = (result, ⟨e', journal⟩) ∧
      Setting "To" value e (AddressList.parse value) result e' := by
  have setting := setting_setRead (AddressList.parse value) id "to" value e journal
  rwa [FieldName.canonical_to, Except.map_id] at setting

/-! ### What is read afterwards -/

/-- A field has a text without the blanks at its ends as its one value, from which its addresses are
read, and all else is as it was. -/
structure IsSetTo (field value : Text) (e e' : Email) : Prop where
  single : e'.header.values field = [value.trim]
  others : ∀ name, FieldName.canonical name ≠ FieldName.canonical field →
    e'.header.values name = e.header.values name
  revision : e'.header.revision = e.header.revision + 1
  message : e'.message = e.message
  auth : e'.auth = e.auth
  reads : e'.addresses field =
    (AddressList.parse value.trim).mapError (Failure.ofField field)

variable {field key value : Text} {e e' : Email} {parsed : Except Address.Failure AddressList}
  {result : Except Failure Unit}

/-- A text is set, or all is as it was. -/
theorem Setting.isSetTo_or_eq (setting : Setting key value e parsed result e')
    (same : FieldName.canonical field = key)
    (filled : ∀ l, parsed = .ok l → value.isBlank = false) :
    (result = .ok () ∧ IsSetTo field value e e') ∨
      (∃ failure, result = .error failure) ∧ e' = e := by
  cases setting with
  | unread unread => exact .inr ⟨⟨_, rfl⟩, rfl⟩
  | closed reads closed => exact .inr ⟨⟨_, rfl⟩, rfl⟩
  | set reads writable =>
    refine .inl ⟨rfl, ?_, fun name other => ?_, rfl, rfl, rfl, ?_⟩
    · rw [values_replaced, if_pos same]
    · rw [values_replaced, if_neg fun h => other (h.trans same.symm)]
    · unfold Email.addresses
      rw [addresses_replaced e same ((Text.isBlank_trim value).trans (filled _ reads))]

theorem isBlank_of_parse {l : AddressList} (parses : AddressList.parse value = .ok l) :
    value.isBlank = false := (AddressList.parse_eq_ok_iff.1 parses).1

/-- A text from which the same addresses are read with and without the blanks at its ends: there
are none, or they are gaps around addresses that have been entered. -/
inductive IsReadAs (value : Text) (l : AddressList) : Prop where
  | trimmed (parses : AddressList.parse value = .ok l) (trimmed : value.IsTrimmed) :
      IsReadAs value l
  | entered (entered : AddressList.Entered value l) : IsReadAs value l

theorem IsReadAs.parse {l : AddressList} (h : IsReadAs value l) :
    AddressList.parse value = .ok l := by
  cases h with
  | trimmed parses => exact parses
  | entered entered => exact AddressList.parse_entered entered

theorem IsReadAs.parse_trim {l : AddressList} (h : IsReadAs value l) :
    AddressList.parse value.trim = .ok l := by
  cases h with
  | trimmed parses trimmed => rwa [Text.trim_eq_self_iff.2 trimmed]
  | entered entered => exact AddressList.parse_entered entered.trim

/-- What is read from a text with and without the blanks at its ends is what is read from the field,
once it has been set. -/
theorem Setting.addresses_of_parse (setting : Setting key value e parsed result e')
    (same : FieldName.canonical field = key) (writable : e.header.isReadOnly = false)
    {l : AddressList} (reads : parsed = .ok l) (again : AddressList.parse value.trim = .ok l) :
    result = .ok () ∧ e'.addresses field = .ok l := by
  cases setting with
  | unread unread => cases reads.symm.trans unread
  | closed _ closed => cases writable.symm.trans closed
  | set =>
    refine ⟨rfl, ?_⟩
    unfold Email.addresses
    rw [addresses_replaced e same (isBlank_of_parse again), again]
    rfl

/-- **What the setters do.** A text is refused with the failure of reading it, or because the header
is closed, and then all is as it was; or else it is the one value of its field, without the blanks
at its ends. What has been read from it is what is read from the field if there were no such blanks,
and if they were gaps around addresses that have been entered. -/
theorem setters (value : Text) (e : Email) (journal : Journal) :
    (∃ result e', perform (setSender value) ⟨e, journal⟩ = (result, ⟨e', journal⟩) ∧
      Setting "From" value e ((Address.parse value).map ([·])) result e' ∧
      ((result = .ok () ∧ IsSetTo "from" value e e') ∨
        (∃ failure, result = .error failure) ∧ e' = e) ∧
      ∀ a, e.header.isReadOnly = false → IsReadAs value [a] →
        result = .ok () ∧ e'.sender = .ok (some a)) ∧
    ∃ result e', perform (setRecipients value) ⟨e, journal⟩ = (result, ⟨e', journal⟩) ∧
      Setting "To" value e (AddressList.parse value) result e' ∧
      ((result = .ok () ∧ IsSetTo "to" value e e') ∨
        (∃ failure, result = .error failure) ∧ e' = e) ∧
      ∀ l, e.header.isReadOnly = false → IsReadAs value l →
        result = .ok () ∧ e'.addresses "to" = .ok l := by
  constructor
  · obtain ⟨result, e', performs, setting⟩ := setting_setSender value e journal
    have set_or_eq := setting.isSetTo_or_eq FieldName.canonical_from fun l reads => by
      obtain ⟨a, parses, -⟩ := map_eq_ok_iff.1 reads
      exact isBlank_of_parse (Address.parse_eq_ok_iff.1 parses)
    refine ⟨result, e', performs, setting, set_or_eq, fun a writable read => ?_⟩
    obtain ⟨accepted, again⟩ := setting.addresses_of_parse FieldName.canonical_from writable
      (map_eq_ok_iff.2 ⟨a, Address.parse_eq_ok_iff.2 read.parse, rfl⟩) read.parse_trim
    exact ⟨accepted, map_eq_ok_iff.2 ⟨[a], again, rfl⟩⟩
  · obtain ⟨result, e', performs, setting⟩ := setting_setRecipients value e journal
    exact ⟨result, e', performs, setting,
      setting.isSetTo_or_eq FieldName.canonical_to fun l reads => isBlank_of_parse reads,
      fun l writable read => setting.addresses_of_parse FieldName.canonical_to writable read.parse
        read.parse_trim⟩

/-- A message from somebody. -/
def signed : Email := .ofParts ⟨[⟨"From", "x@y.z", []⟩], false, 1⟩ []

/-- Two recipients, of whom the first has a name of two words. -/
def spaced : Text := "\tAnn  Lee <a@b.c>, x@y.org "

theorem entered_spaced :
    AddressList.Entered spaced [⟨"a@b.c", "Ann Lee"⟩, ⟨"x@y.org", []⟩] := by
  have whole : spaced = Text.ofString "\t" ++ (Text.ofString "Ann" ++ (Text.ofString "  " ++
      (Text.ofString "Lee" ++ Text.ofString " ")) ++ Text.ofString "<a@b.c>" ++
      ([] ++ CodePoint.ofChar ',' :: (Text.ofString " " ++
        (Text.ofString "x" ++ CodePoint.ofChar '@' :: Text.ofString "y.org" ++
          Text.ofString " ")))) := by
    decide +kernel
  have ann : Address.Parts.IsSound ⟨"Ann Lee", "a", "b.c"⟩ :=
    ⟨by decide, by decide, by decide, .dotted (by decide) (by decide) (by decide),
      ⟨by decide, by decide⟩, Address.isEncodable_of_isAscii (by decide),
      Address.isEncodable_of_isAscii (by decide)⟩
  have other : Address.Parts.IsSound ⟨[], "x", "y.org"⟩ :=
    ⟨by decide, by decide, by decide, .dotted (by decide) (by decide) (by decide),
      ⟨by decide, by decide⟩, Address.isEncodable_of_isAscii (by decide),
      Address.isEncodable_of_isAscii (by decide)⟩
  have name : Address.Phrase.Entered (Text.ofString "Ann" ++ (Text.ofString "  " ++
      (Text.ofString "Lee" ++ Text.ofString " "))) "Ann Lee" :=
    .more (.atom (by decide) (by decide) (by decide) (by decide)) ⟨by decide, by decide⟩
      (by decide) (.word (.atom (by decide) (by decide) (by decide) (by decide))
        ⟨by decide, by decide⟩)
  rw [whole]
  exact .more ann (.named name) ⟨by decide, by decide⟩ Text.isGap_nil
    (.last other (.bare rfl ⟨by decide, by decide, by decide⟩ ⟨by decide, by decide, by decide⟩)
      ⟨by decide, by decide⟩ ⟨by decide, by decide⟩)

/-- Their names and addresses are those that have been entered. -/
theorem setters_spaced :
    AddressList.Entered spaced [⟨"a@b.c", "Ann Lee"⟩, ⟨"x@y.org", []⟩] ∧
      ∃ e', perform (setRecipients spaced) ⟨signed, []⟩ = (.ok (), ⟨e', []⟩) ∧
        e'.header.values "to" = [Text.ofString "Ann  Lee <a@b.c>, x@y.org"] ∧
        e'.addresses "to" = .ok [⟨"a@b.c", "Ann Lee"⟩, ⟨"x@y.org", []⟩] := by
  obtain ⟨-, result, e', performs, -, set_or_eq, reads⟩ := setters spaced signed []
  obtain ⟨rfl, again⟩ := reads _ rfl (.entered entered_spaced)
  rcases set_or_eq with ⟨-, set⟩ | ⟨⟨_, refused⟩, -⟩
  · have trimmed : spaced.trim = "Ann  Lee <a@b.c>, x@y.org" := by decide +kernel
    exact ⟨entered_spaced, e', performs, trimmed ▸ set.single, again⟩
  · cases refused

/-- A blank that is neither a space nor a tab belongs to the name when a text is read, and is lost
when the text is set; without it, an address may be one no longer. -/
theorem setSender_drops_blank :
    let blank := CodePoint.ofNat 0xA0
    let named : Text := blank :: "Ann <a@b.c>"
    let dotted : Text := blank :: ".a@b.c"
    Address.parse named = .ok ⟨"a@b.c", blank :: "Ann"⟩ ∧
      (perform (setSender named) ⟨signed, []⟩).1 = .ok () ∧
      (perform (setSender named) ⟨signed, []⟩).2.email.sender = .ok (some ⟨"a@b.c", "Ann"⟩) ∧
      (perform (setSender dotted) ⟨signed, []⟩).1 = .ok () ∧
      (perform (setSender dotted) ⟨signed, []⟩).2.email.sender = .error (.ofField "from"
        (.fault (.invalidList ".a@b.c" (.defect .improperLocalPart)))) := by
  decide +kernel

end Work

end Mailroom
