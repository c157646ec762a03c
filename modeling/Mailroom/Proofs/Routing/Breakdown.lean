import Mailroom.Proofs.Message.CarryOver
import Mailroom.Proofs.Message.Lines
import Mailroom.Proofs.Pattern.Unnumbered
import Mailroom.Proofs.Routing.FirstMatch

/-!
# When matching breaks down

Every address field of a message that has been read can be read. A condition looks at the view of
it all the same, which writes addresses and reads them again, and either of these can break down.

* `Header.HasPlainNames`: no name that a view shows has a surrogate;
* `Header.seen`: what a view tells of an address field, given the header alone;
* `Matcher.CanTell`: a matcher does not break down;
* `Router.Stalls`: the first rule that does not reject a message breaks down;
* `Email.matching_answers_iff`: matching answers exactly if it can tell, routing breaks down exactly
  if it stalls, and which messages cannot make it.
-/

namespace Mailroom

open Email

/-! ### Address fields in a view -/

theorem Email.shownFields_subset : shownFields ⊆ addressFields := by decide

namespace Header

variable {h view : Header}

/-- No address that a view shows has a name with surrogates. -/
def HasPlainNames (h : Header) : Prop :=
  ∀ field ∈ shownFields, ∀ l, h.addresses field = .ok l →
    ∀ a ∈ shownPart field l, a.name.any CodePoint.isSurrogate = false

/-- If the address fields can be read, names alone decide whether there is a view. -/
theorem exists_view_iff_hasPlainNames
    (reads : ∀ field ∈ addressFields, ∃ l, h.addresses field = .ok l) :
    (∃ view, reconcile h = .ok view) ↔ h.HasPlainNames := by
  rw [exists_view_iff]
  refine forall₂_congr fun field hfield => and_iff_right fun cause breaks => ?_
  obtain ⟨l, parses⟩ := reads field (shownFields_subset hfield)
  rw [parses] at breaks
  cases breaks

/-- If the address fields can be read, a name with surrogates is why there is no view. -/
theorem reconcile_eq_error_of_reads
    (reads : ∀ field ∈ addressFields, ∃ l, h.addresses field = .ok l) {failure : Failure}
    (e : reconcile h = .error failure) : failure = .breakdown .unencodable := by
  obtain ⟨field, hfield, unshown⟩ := exists_canonicalField_eq_error e
  obtain ⟨l, parses⟩ := reads field (shownFields_subset hfield)
  rw [canonicalField_of_parses parses] at unshown
  split at unshown
  · cases unshown
  · split at unshown <;> cases unshown
    rfl

/-- What is found in a view when addresses are read in it: those of a shown field are written and
read again, hidden recipients are gone, and all others are as they were. -/
def seen (h : Header) (field : Text) : Except Address.Failure AddressList :=
  if shownFields.any fun name => decide (name = field) then readAgain h field
  else if field = Text.ofString "bcc" then .ok []
  else h.addresses field

theorem seen_of_mem {field : Text} (shown : field ∈ shownFields) :
    h.seen field = readAgain h field :=
  if_pos (List.any_eq_true.2 ⟨field, shown, decide_eq_true rfl⟩)

theorem seen_of_not_mem {field : Text} (shown : field ∉ shownFields) :
    h.seen field = if field = Text.ofString "bcc" then .ok [] else h.addresses field := by
  refine if_neg fun found => shown ?_
  obtain ⟨name, hname, same⟩ := List.any_eq_true.1 found
  exact of_decide_eq_true same ▸ hname

/-- The addresses of a field depend on its values alone. -/
theorem addresses_congr {field : Text} (same : view.values field = h.values field) :
    view.addresses field = h.addresses field := by
  unfold values at same
  unfold Header.addresses
  cases hv : view.find? field <;> cases hh : h.find? field <;>
    simp_all [Field.values]

theorem eq_replyTo_of_ofField {field : Text} (address : FieldKind.ofField field = .address)
    (shown : field ∉ shownFields) (hidden : field ≠ Text.ofString "bcc") :
    field = Text.ofString "reply-to" := by
  have others : ∀ name ∈ FieldKind.addressFields.map Text.ofString, name ∉ shownFields →
      name ≠ Text.ofString "bcc" → name = Text.ofString "reply-to" := by decide
  refine others field ?_ shown hidden
  unfold FieldKind.ofField at address
  split at address
  · next found =>
    obtain ⟨s, hs, same⟩ := List.any_eq_true.1 found
    exact List.mem_map.2 ⟨s, hs, of_decide_eq_true same⟩
  · cases address

/-- **A view tells of an address field** what the header determines. -/
theorem addresses_view (keyed : IsKeyed h.fields) (shows : reconcile h = .ok view) {field : Text}
    (address : FieldKind.ofField field = .address) : view.addresses field = h.seen field := by
  by_cases shown : field ∈ shownFields
  · rw [seen_of_mem shown]
    exact addresses_reconcile shows shown
  rw [seen_of_not_mem shown]
  by_cases hidden : field = Text.ofString "bcc"
  · have gone := contains_view_bcc shows (hidden ▸ FieldName.canonical_bcc)
    rw [if_pos hidden, Header.addresses]
    rw [Header.contains, Option.isSome_eq_false_iff, Option.isNone_iff_eq_none] at gone
    rw [gone]
  · rw [if_neg hidden, eq_replyTo_of_ofField address shown hidden]
    -- no other field name becomes this one when the header is copied
    have settled : FieldName.IsSettled (FieldName.canonical (Text.ofString "reply-to")) := by decide
    have plain : CodePoint.ofChar 'K' ∉ FieldName.canonical (Text.ofString "reply-to") ∧
        CodePoint.ofChar 'k' ∉ FieldName.canonical (Text.ofString "reply-to") := by decide
    have visible : ¬ IsAddressField (FieldName.canonical (Text.ofString "reply-to")) := by
      unfold IsAddressField
      decide
    refine addresses_congr ((sameUnder_iff keyed shows visible).2 fun f hf => ?_).values
    obtain ⟨spelling, hspelling⟩ := keyed.canonical f.name (List.mem_map_of_mem hf)
    rw [← hspelling]
    exact FieldName.canonical_canonical_eq_iff settled plain spelling

end Header

/-! ### What matchers can tell -/

/-- A condition finds a value, or finds that there is none, unless it asks for addresses and reading
them breaks down. -/
theorem Condition.exists_valueIn_iff {c : Condition} {view : Header} :
    (∃ found, c.valueIn view = .ok found) ↔
      (c.kind = .address → ∀ cause, view.addresses c.field ≠ .error (.breakdown cause)) := by
  unfold valueIn Header.address
  cases c.kind with
  | plain => simp
  | address =>
    rcases view.addresses c.field with (fault | cause) | _ | ⟨a, l⟩ <;> simp [Except.map]

namespace Matcher

/-- The pattern of the matcher, if it has one, has no numbered groups. -/
def IsUnnumbered (m : Matcher) : Prop :=
  ∀ c pattern, m = .field c → c.pattern = some pattern → pattern.isUnnumbered = true

/-- A matcher can tell whether it accepts a message: a view can be made of the header, the field of
the condition can be read in it, and the value in it can be compared. -/
def CanTell (h : Header) : Matcher → Prop
  | everything => True
  | field c => h.HasPlainNames ∧
      (c.kind = .address → ∀ cause, h.seen c.field ≠ .error (.breakdown cause)) ∧
      ∀ view value, reconcile h = .ok view → c.valueIn view = .ok (some value) →
        ∃ met, c.accepts value = .ok met

/-- **A matcher answers exactly if it can tell.** -/
theorem exists_verdict_iff {h : Header} (keyed : Header.IsKeyed h.fields)
    (reads : ∀ field ∈ addressFields, ∃ l, h.addresses field = .ok l) {m : Matcher} :
    (∃ met, m.verdict h = .ok met) ↔ m.CanTell h := by
  cases m with
  | everything => exact iff_of_true ⟨true, rfl⟩ trivial
  | field c =>
    unfold CanTell
    rw [← Header.exists_view_iff_hasPlainNames reads]
    constructor
    · rintro ⟨met, e⟩
      obtain ⟨view, shows, e⟩ := bind_eq_ok_iff.1 e
      obtain ⟨found, hfound, e⟩ := bind_eq_ok_iff.1 e
      refine ⟨⟨view, shows⟩, fun kind cause => ?_, fun view' value shows' hvalue => ?_⟩
      · rw [← Header.addresses_view keyed shows kind]
        exact Condition.exists_valueIn_iff.1 ⟨found, hfound⟩ kind cause
      · rw [shows, Except.ok.injEq] at shows'
        rw [← shows', hfound, Except.ok.injEq] at hvalue
        rw [hvalue] at e
        exact ⟨met, mapError_eq_ok_iff.1 e⟩
    · rintro ⟨⟨view, shows⟩, reading, comparing⟩
      obtain ⟨found, hfound⟩ := Condition.exists_valueIn_iff.2 fun kind cause => by
        rw [Header.addresses_view keyed shows kind]
        exact reading kind cause
      have whole : (Matcher.field c).verdict h = match found with
          | some value => (c.accepts value).mapError fun cause => .breakdown (.pattern cause)
          | none => .ok false := by
        unfold verdict
        simp only [shows, hfound, bind, Except.bind]
        cases found <;> rfl
      cases found with
      | none => exact ⟨false, whole⟩
      | some value =>
        obtain ⟨met, hmet⟩ := comparing view value shows hfound
        rw [whole]
        exact ⟨met, mapError_eq_ok_iff.2 hmet⟩

/-- A matcher that cannot tell breaks down. -/
theorem not_canTell_iff {h : Header} (keyed : Header.IsKeyed h.fields)
    (reads : ∀ field ∈ addressFields, ∃ l, h.addresses field = .ok l) {m : Matcher} :
    ¬ m.CanTell h ↔ ∃ cause, m.verdict h = .error (.breakdown cause) := by
  rw [← exists_verdict_iff keyed reads]
  cases hm : m.verdict h with
  | ok met => simp
  | error failure =>
    obtain ⟨cause, rfl⟩ := verdict_eq_error hm
    simp

/-- A value can be compared with a text, and with a pattern that has no numbered groups. -/
theorem exists_accepts_eq_ok {c : Condition} (unnumbered : (Matcher.field c).IsUnnumbered)
    (value : Text) : ∃ met, c.accepts value = .ok met := by
  unfold Condition.accepts
  cases hp : c.pattern with
  | none => exact ⟨_, rfl⟩
  | some pattern => exact Pattern.exists_occursIn_eq_ok (unnumbered c pattern rfl hp) value

end Matcher

/-! ### What makes matchers tell -/

/-- The addresses that a view shows are ordinary ones, and reading those for answers does not break
down. -/
structure Header.IsOrdinary (h : Header) : Prop where
  shown : ∀ field ∈ shownFields, ∀ l, h.addresses field = .ok l → ∃ ps : List Address.Parts,
    shownPart field l = ps.map (·.address) ∧ ∀ p ∈ ps, p.IsOrdinary
  replyTo : ∀ cause, h.addresses "reply-to" ≠ .error (.breakdown cause)

namespace Header

variable {h : Header}

theorem IsOrdinary.readAgain_ne_breakdown (ordinary : h.IsOrdinary) {field : Text}
    (shown : field ∈ shownFields) (reads : ∃ l, h.addresses field = .ok l)
    (cause : Address.Breakdown) : readAgain h field ≠ .error (.breakdown cause) := by
  obtain ⟨l, parses⟩ := reads
  unfold readAgain
  intro e
  rw [parses] at e
  split at e
  · next a l' same =>
    cases same
    obtain ⟨ps, parts, each⟩ := ordinary.shown field shown _ parses
    split at e
    · next text rendered =>
      rw [parts] at rendered
      exact AddressList.parse_rendered_ne_breakdown each rendered cause e
    · cases e
  · cases e

theorem IsOrdinary.seen_ne_breakdown (ordinary : h.IsOrdinary)
    (reads : ∀ field ∈ addressFields, ∃ l, h.addresses field = .ok l) {field : Text}
    (address : FieldKind.ofField field = .address) (cause : Address.Breakdown) :
    h.seen field ≠ .error (.breakdown cause) := by
  by_cases shown : field ∈ shownFields
  · rw [seen_of_mem shown]
    exact ordinary.readAgain_ne_breakdown shown (reads field (shownFields_subset shown)) cause
  rw [seen_of_not_mem shown]
  by_cases hidden : field = Text.ofString "bcc"
  · rw [if_pos hidden]
    exact fun e => (by cases e)
  · rw [if_neg hidden, eq_replyTo_of_ofField address shown hidden]
    exact ordinary.replyTo cause

end Header

/-- Of ordinary addresses, names alone decide whether a matcher without numbered groups can tell. -/
theorem Matcher.canTell_iff_of_isOrdinary {h : Header} (ordinary : h.IsOrdinary)
    (reads : ∀ field ∈ addressFields, ∃ l, h.addresses field = .ok l) {m : Matcher}
    (unnumbered : m.IsUnnumbered) : m.CanTell h ↔ m = .everything ∨ h.HasPlainNames := by
  cases m with
  | everything => exact iff_of_true trivial (.inl rfl)
  | field c =>
    constructor
    · exact fun tells => .inr tells.1
    · rintro (⟨⟨⟩⟩ | plain)
      exact ⟨plain, fun kind => ordinary.seen_ne_breakdown reads kind,
        fun _ value _ _ => exists_accepts_eq_ok unnumbered value⟩

/-! ### Rules and routers -/

namespace Rule

/-- Asking matchers fails at the first that does not accept, if that one fails. -/
theorem allVerdict_eq_error_iff {h : Header} {ms : List Matcher} {failure : Failure} :
    allVerdict h ms = .error failure ↔ ∃ before m after, ms = before ++ m :: after ∧
      (∀ b ∈ before, b.verdict h = .ok true) ∧ m.verdict h = .error failure := by
  have step (m : Matcher) (ms : List Matcher) : allVerdict h (m :: ms) = .error failure ↔
      m.verdict h = .error failure ∨
        m.verdict h = .ok true ∧ allVerdict h ms = .error failure := by
    rw [allVerdict, bind_eq_error_iff]
    refine or_congr_right ⟨?_, fun accepts => ⟨true, accepts⟩⟩
    rintro ⟨_ | _, hm, e⟩
    · cases e
    · exact ⟨hm, e⟩
  exact pass_iff_exists_split (P := fun _ ms => allVerdict h ms = .error failure)
    (fun _ e => by cases e) (fun _ => step) 0 ms

/-- A rule fails at the first of its matchers that does not accept, if that one fails. -/
theorem verdict_eq_error_iff {r : Rule} {h : Header} {failure : Failure} :
    r.verdict h = .error failure ↔ ∃ before m after, r.matchers = before ++ m :: after ∧
      (∀ b ∈ before, b.verdict h = .ok true) ∧ m.verdict h = .error failure := by
  rw [← allVerdict_eq_error_iff, verdict]
  split
  · next none =>
    rw [List.isEmpty_iff.1 none]
    exact ⟨fun e => (by cases e), fun e => (by cases e)⟩
  · rfl

end Rule

namespace Router

/-- Deciding breaks down at the first rule that does not reject, if that one breaks down. -/
theorem chooseFrom_eq_breakdown_iff {h : Header} {rules : List Rule} {position : Nat}
    {cause : Breakdown} :
    chooseFrom position h rules = .error (.breakdown cause) ↔
      ∃ before r after, rules = before ++ r :: after ∧
        (∀ b ∈ before, b.verdict h = .ok false) ∧ r.verdict h = .error (.breakdown cause) := by
  have step (n : Nat) (r : Rule) (rules : List Rule) :
      chooseFrom n h (r :: rules) = .error (.breakdown cause) ↔
        r.verdict h = .error (.breakdown cause) ∨
          r.verdict h = .ok false ∧ chooseFrom (n + 1) h rules = .error (.breakdown cause) := by
    rw [chooseFrom, bind_eq_error_iff]
    refine or_congr_right ⟨?_, fun rejects => ⟨false, rejects⟩⟩
    rintro ⟨_ | _, hr, e⟩
    · exact ⟨hr, e⟩
    · cases e
  exact pass_iff_exists_split (P := fun n rules => chooseFrom n h rules = .error (.breakdown cause))
    (fun _ e => by cases e) step position rules

/-- The first rule that does not reject the message at a desk has a matcher that cannot tell, and
all before it accept. -/
def Stalls (router : Router) (d : Desk) : Prop :=
  ∃ before r after, router.rules = before ++ r :: after ∧
    (∀ b ∈ before, (perform b.accepts d).1 = .ok false) ∧
    ∃ passed m rest, r.matchers = passed ++ m :: rest ∧
      (∀ p ∈ passed, (perform p.accepts d).1 = .ok true) ∧ ¬ m.CanTell d.email.header

variable {router : Router} {d : Desk}

/-- **Deciding breaks down exactly if the router stalls.** -/
theorem exists_choose_eq_breakdown_iff (coherent : d.email.IsCoherent)
    (keyed : Header.IsKeyed d.email.header.fields)
    (reads : ∀ field ∈ addressFields, ∃ l, d.email.header.addresses field = .ok l) :
    (∃ cause, router.choose d.email.header = .error (.breakdown cause)) ↔ router.Stalls d := by
  have rule : ∀ r : Rule, (perform r.accepts d).1 = r.verdict d.email.header :=
    fun r => r.fst_perform_accepts coherent
  have matcher : ∀ m : Matcher, (perform m.accepts d).1 = m.verdict d.email.header :=
    fun m => m.fst_perform_accepts coherent
  simp only [Stalls, Matcher.not_canTell_iff keyed reads, rule, matcher]
  constructor
  · rintro ⟨cause, e⟩
    obtain ⟨before, r, after, split, rejects, breaks⟩ := chooseFrom_eq_breakdown_iff.1 e
    obtain ⟨passed, m, rest, parts, accepts, breaks⟩ := Rule.verdict_eq_error_iff.1 breaks
    exact ⟨before, r, after, split, rejects, passed, m, rest, parts, accepts, cause, breaks⟩
  · rintro ⟨before, r, after, split, rejects, passed, m, rest, parts, accepts, cause, breaks⟩
    exact ⟨cause, chooseFrom_eq_breakdown_iff.2 ⟨before, r, after, split, rejects,
      Rule.verdict_eq_error_iff.2 ⟨passed, m, rest, parts, accepts, breaks⟩⟩⟩

end Router

/-- The address fields of a message that has been read can be read. -/
theorem Email.exists_addresses_of_read {ignoreDots : Bool} {data : Octets} {e : Email}
    (accepted : read ignoreDots data = .ok e) :
    ∀ field ∈ addressFields, ∃ l, e.header.addresses field = .ok l := by
  obtain ⟨header, -, reads, rfl⟩ := read_eq_ok_iff.1 accepted
  exact reads

/-- **When matching and routing answer.** For a message that has been read, a matcher answers exactly
if it can tell, and breaks down otherwise; a router decides, or finds no route, exactly if it does
not stall, and breaks down otherwise. A name with surrogates in a field that the view shows breaks
every condition down, on whatever field it is. If the addresses are ordinary ones, only such a name
can break down a condition whose pattern has no numbered groups. -/
theorem Email.matching_answers_iff {ignoreDots : Bool} {data : Octets} {e : Email}
    (accepted : read ignoreDots data = .ok e) (journal : Journal) :
    let d : Desk := ⟨e, journal⟩
    (∀ m : Matcher, ((∃ met, (perform m.accepts d).1 = .ok met) ↔ m.CanTell e.header) ∧
        (¬ m.CanTell e.header → ∃ cause, (perform m.accepts d).1 = .error (.breakdown cause))) ∧
      (∀ router : Router,
        ((∃ decision, (perform router.decide d).1 = .ok decision) ∨
            (perform router.decide d).1 = .error .noRoute ↔ ¬ router.Stalls d) ∧
          (router.Stalls d →
            ∃ cause, (perform router.decide d).1 = .error (.breakdown cause))) ∧
      (¬ e.header.HasPlainNames → ∀ c : Condition,
        (perform (Matcher.field c).accepts d).1 = .error (.breakdown .unencodable)) ∧
      (e.header.IsOrdinary → ∀ m : Matcher, m.IsUnnumbered →
        (m.CanTell e.header ↔ m = .everything ∨ e.header.HasPlainNames)) := by
  intro d
  have coherent : d.email.IsCoherent := (reachable_read accepted).isCoherent
  have keyed : Header.IsKeyed d.email.header.fields := isKeyed_read accepted
  have reads := exists_addresses_of_read accepted
  refine ⟨fun m => ?_, fun router => ?_, fun garbled c => ?_, fun ordinary m unnumbered =>
    Matcher.canTell_iff_of_isOrdinary ordinary reads unnumbered⟩
  · rw [m.fst_perform_accepts coherent]
    refine ⟨Matcher.exists_verdict_iff keyed reads, fun mute => ?_⟩
    exact (Matcher.not_canTell_iff keyed reads).1 mute
  · obtain ⟨d', hdecide, -⟩ := router.perform_decide coherent (isClean_read accepted).2.1
    rw [hdecide, ← router.exists_choose_eq_breakdown_iff coherent keyed reads]
    refine ⟨⟨?_, fun sound => ?_⟩, id⟩
    · rintro (⟨decision, e⟩ | e) ⟨cause, breaks⟩ <;> rw [breaks] at e <;> cases e
    · cases hchoose : router.choose d.email.header with
      | ok decision => exact .inl ⟨decision, rfl⟩
      | error failure =>
        rcases Router.chooseFrom_eq_error hchoose with ⟨cause, rfl⟩ | ⟨rfl, -⟩
        · exact absurd ⟨cause, hchoose⟩ sound
        · exact .inr rfl
  · rw [Matcher.fst_perform_accepts _ coherent]
    cases hview : reconcile e.header with
    | ok view => exact absurd ((Header.exists_view_iff_hasPlainNames reads).1 ⟨view, hview⟩) garbled
    | error failure =>
      have cause := Header.reconcile_eq_error_of_reads reads hview
      exact bind_eq_error_iff.2 (.inl (cause ▸ hview))

/-- A message from somebody with a foreign name, to somebody with two dots in a row. -/
def Email.addressed : Email :=
  .ofParts ⟨[⟨"From", "Jörg <j.k@example.org>", []⟩, ⟨"To", "\"a..b\"@[10.0.0.1]", []⟩], false, 2⟩
    (Utf8.encodeDropping "hi")

/-- Every condition without numbered groups gets an answer from it. -/
theorem Email.addressed_answers :
    read false (Utf8.encodeDropping
        "From: Jörg <j.k@example.org>\nTo: \"a..b\"@[10.0.0.1]\n\nhi\n") = .ok addressed ∧
      ∀ m : Matcher, m.IsUnnumbered → ∃ met, (perform m.accepts ⟨addressed, []⟩).1 = .ok met := by
  have accepted : read false (Utf8.encodeDropping
      "From: Jörg <j.k@example.org>\nTo: \"a..b\"@[10.0.0.1]\n\nhi\n") = .ok addressed := by
    decide +kernel
  let sender : Address.Parts := ⟨"Jörg", "j.k", "example.org"⟩
  let recipient : Address.Parts := ⟨[], "a..b", "[10.0.0.1]"⟩
  have hs : addressed.header.addresses "from" = .ok [sender.address] := by decide +kernel
  have ht : addressed.header.addresses "to" = .ok [recipient.address] := by decide +kernel
  have hc : addressed.header.addresses "cc" = .ok [] := by decide +kernel
  have hr : addressed.header.addresses "reply-to" = .ok [] := by decide +kernel
  have senderOrdinary : sender.IsOrdinary :=
    ⟨by decide, by decide, .dotted (by decide) (by decide +kernel) (by decide), by decide⟩
  have recipientOrdinary : recipient.IsOrdinary := by
    refine ⟨by decide, by decide, ?_, by decide⟩
    exact .literal (d := "10.0.0.1") (by decide +kernel)
  have ordinary : addressed.header.IsOrdinary := by
    refine ⟨?_, fun cause breaks => by rw [hr] at breaks; cases breaks⟩
    simp only [shownFields, List.forall_mem_cons, hs, ht, hc, Except.ok.injEq, forall_eq']
    refine ⟨⟨[sender], rfl, ?_⟩, ⟨[recipient], rfl, ?_⟩, ⟨[], rfl, ?_⟩, fun _ h => (by cases h)⟩
    · simpa using senderOrdinary
    · simpa using recipientOrdinary
    · simp
  have plain : addressed.header.HasPlainNames := by
    unfold Header.HasPlainNames
    simp only [shownFields, List.forall_mem_cons, hs, ht, hc, Except.ok.injEq, forall_eq']
    exact ⟨by decide +kernel, by decide +kernel, by decide +kernel, fun _ h => (by cases h)⟩
  have answers := matching_answers_iff accepted []
  exact ⟨accepted, fun m unnumbered =>
    (answers.1 m).1.2 ((answers.2.2.2 ordinary m unnumbered).2 (.inr plain))⟩

/-- A message from somebody whose name has an octet in it that is no text. -/
def Email.garbled : Email :=
  .ofParts ⟨[⟨"From", CodePoint.ofNat 0xDCFF :: Text.ofString " <a@b.c>", []⟩,
    ⟨"To", "x@y.org", []⟩], false, 2⟩ (Utf8.encodeDropping "hi")

/-- It is read, but a condition on its sender breaks down, and so does a router with no other. -/
theorem Email.garbled_breaks :
    let data := Utf8.encodeDropping "From: " ++ 0xFF ::
      Utf8.encodeDropping " <a@b.c>\nTo: x@y.org\n\nhi\n"
    let m : Matcher := .field ⟨"from", "a@b.c", none⟩
    let r : Rule := ⟨"r", [m], [], none, "h"⟩
    read false data = .ok garbled ∧ garbled.addresses "from" =
        .ok [⟨"a@b.c", [CodePoint.ofNat 0xDCFF]⟩] ∧
      Rule.build "r" "h" none ["from:a@b.c"] [] = .ok r ∧
      (perform m.accepts ⟨garbled, []⟩).1 = .error (.breakdown .unencodable) ∧
      (perform (Router.decide ⟨r, []⟩) ⟨garbled, []⟩).1 = .error (.breakdown .unencodable) := by
  decide +kernel

end Mailroom
