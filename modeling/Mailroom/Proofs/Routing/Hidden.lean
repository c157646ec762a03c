import Mailroom.Proofs.Header.Lines
import Mailroom.Proofs.Message.Reachable
import Mailroom.Proofs.Message.View
import Mailroom.Proofs.Rule.Template

/-!
# Hidden recipients

Two messages that differ only in their hidden recipients are routed alike: nothing of `Bcc` is
seen by matchers, templates or whoever reads the message, only by the envelope.

* `Header.AgreeButBcc`: two headers have the same fields, but for `Bcc`;
* `Header.AlikeButBcc`: and the same comes of reading `Bcc`, or else two lists of addresses;
* `Email.reconcile_agree`, `Matcher.verdict_congr`, `Rule.rewritten_alike`: views, verdicts and
  rewriting, which `Bcc` has no part in;
* `Router.deliver_hides_bcc`: the main theorem, over whole runs.
-/

namespace Mailroom

namespace Header

/-- Two headers agree on every field but `Bcc`. Names that are put together in a copy have to come
in the same order, as the first value counts there. -/
structure AgreeButBcc (h k : Header) : Prop where
  values : ∀ name, name ≠ Text.ofString "Bcc" → lookup? h.fields name = lookup? k.fields name
  order : ∀ name, name ≠ Text.ofString "Bcc" →
    h.fields.filter (fun f => FieldName.canonical f.name = name) =
      k.fields.filter fun f => FieldName.canonical f.name = name

/-- Two headers agree on every field but `Bcc`, and `Bcc` is the same text or holds addresses in
both. -/
structure AlikeButBcc (h k : Header) : Prop extends AgreeButBcc h k where
  bcc : lookup? h.fields "Bcc" = lookup? k.fields "Bcc" ∨
    (∃ addresses, h.addresses "bcc" = .ok addresses) ∧
      ∃ addresses, k.addresses "bcc" = .ok addresses

namespace AgreeButBcc

variable {h k : Header}

theorem find? (agree : AgreeButBcc h k) {field : Text}
    (shown : FieldName.canonical field ≠ Text.ofString "Bcc") :
    h.find? field = k.find? field := agree.values _ shown

theorem first (agree : AgreeButBcc h k) {field : Text}
    (shown : FieldName.canonical field ≠ Text.ofString "Bcc") :
    h.first field = k.first field := by
  rw [Header.first, Header.first, agree.find? shown]

theorem addresses (agree : AgreeButBcc h k) {field : Text}
    (shown : FieldName.canonical field ≠ Text.ofString "Bcc") :
    h.addresses field = k.addresses field := by
  rw [Header.addresses, Header.addresses, agree.find? shown]

theorem lookup?_clone (agree : AgreeButBcc h k) {name : Text}
    (shown : name ≠ Text.ofString "Bcc") :
    lookup? h.clone.fields name = lookup? k.clone.fields name := by
  rw [lookup?_eq, lookup?_eq]
  show ofValues? name (valuesOf (gather _) name) = ofValues? name (valuesOf (gather _) name)
  -- a copy puts fields together under their canonical names, in the order of the original
  rw [valuesOf_gather, valuesOf_gather, List.filter_map, List.filter_map, List.flatMap_map,
    List.flatMap_map]
  exact congrArg (fun fields : List Field => ofValues? name (fields.flatMap Field.values))
    (agree.order name shown)

theorem canonicalField (agree : AgreeButBcc h k) {field : Text}
    (shown : FieldName.canonical field ≠ Text.ofString "Bcc") :
    Email.canonicalField h field = Email.canonicalField k field := by
  rw [Email.canonicalField, Email.canonicalField, Header.contains, Header.contains,
    agree.find? shown, agree.addresses shown, agree.first shown]

/-- A value in place of a field is no disagreement. -/
theorem replaceValues (agree : AgreeButBcc h k) (key value : Text) {h' k' : Header}
    (hh : h'.fields = Header.replaceValues key value h.fields)
    (hk : k'.fields = Header.replaceValues key value k.fields) : AgreeButBcc h' k' where
  values name shown := by
    rw [hh, hk, lookup?_replaceValues, lookup?_replaceValues, agree.values name shown]
  order name shown := by
    rw [hh, hk, filter_replaceValues (fun n => FieldName.canonical n = name),
      filter_replaceValues (fun n => FieldName.canonical n = name), agree.order name shown]

end AgreeButBcc

/-- `Bcc` cannot be read in either header, for the same reason, or holds addresses in both. -/
theorem AlikeButBcc.addresses_bcc {h k : Header} (alike : AlikeButBcc h k) :
    (∃ fault, h.addresses "bcc" = .error fault ∧ k.addresses "bcc" = .error fault) ∨
      ∃ bcc bcc', h.addresses "bcc" = .ok bcc ∧ k.addresses "bcc" = .ok bcc' := by
  rcases alike.bcc with same | ⟨⟨bcc, hbcc⟩, ⟨bcc', hbcc'⟩⟩
  · have : h.addresses "bcc" = k.addresses "bcc" := by
      rw [Header.addresses, Header.addresses, Header.find?, Header.find?,
        FieldName.canonical_bcc, same]
    rw [← this]
    cases h.addresses "bcc" with
    | error fault => exact .inl ⟨fault, rfl, rfl⟩
    | ok bcc => exact .inr ⟨bcc, bcc, rfl, rfl⟩
  · exact .inr ⟨bcc, bcc', hbcc, hbcc'⟩

end Header

/-! ### Views -/

namespace Email

open Header

variable {h k : Header}

/-- Headers that agree but for `Bcc` have views with the same in them, or none for the same
reason. -/
theorem reconcile_agree (agree : AgreeButBcc h k) :
    (∃ failure, reconcile h = .error failure ∧ reconcile k = .error failure) ∨
      ∃ view view', reconcile h = .ok view ∧ reconcile k = .ok view' ∧
        (∀ name, lookup? view.fields name = lookup? view'.fields name) ∧
        view.write? = view'.write? := by
  have hh := map_fields_reconcile h
  have hk := map_fields_reconcile k
  have shown : ∀ field ∈ shownFields, FieldName.canonical field ≠ Text.ofString "Bcc" := by decide
  rw [agree.canonicalField (shown _ (by decide)), agree.canonicalField (shown _ (by decide)),
    agree.canonicalField (shown _ (by decide))] at hh
  -- both views are made of the same three fields now, and of copies without `Bcc`
  generalize canonicalField k "from" = sender, canonicalField k "to" = recipients,
    canonicalField k "cc" = cc at hh hk
  rcases sender with failure | sender
  · exact .inl ⟨failure, map_eq_error_iff.1 hh, map_eq_error_iff.1 hk⟩
  rcases recipients with failure | recipients
  · exact .inl ⟨failure, map_eq_error_iff.1 hh, map_eq_error_iff.1 hk⟩
  rcases cc with failure | cc
  · exact .inl ⟨failure, map_eq_error_iff.1 hh, map_eq_error_iff.1 hk⟩
  obtain ⟨view, hview, fields⟩ := map_eq_ok_iff.1 hh
  obtain ⟨view', hview', fields'⟩ := map_eq_ok_iff.1 hk
  have same : ∀ name, lookup? view.fields name = lookup? view'.fields name := by
    intro name
    rw [fields, fields', lookup?_viewFields, lookup?_viewFields]
    by_cases hidden : name = Text.ofString "Bcc"
    · simp [hidden]
    · simp only [agree.lookup?_clone hidden]
  refine .inr ⟨view, view', hview, hview', same, write?_congr ?_ ?_ same⟩
  · rw [fields]
    exact nodup_viewFields h sender recipients cc
  · rw [fields']
    exact nodup_viewFields k sender recipients cc

/-- The octets that a message is sent as have nothing of `Bcc` in them. -/
theorem octets?_congr (agree : AgreeButBcc h k) (message : Octets) :
    octets? h message = octets? k message := by
  unfold octets? wire?
  rcases reconcile_agree agree with ⟨failure, hh, hk⟩ | ⟨view, view', hh, hk, -, written⟩
  · rw [hh, hk]
  · simp only [hh, hk, bind, Except.bind, written]

end Email

/-! ### Matching -/

theorem Condition.valueIn_congr (c : Condition) {view view' : Header}
    (same : ∀ name, Header.lookup? view.fields name = Header.lookup? view'.fields name) :
    c.valueIn view = c.valueIn view' := by
  have find : view.find? c.field = view'.find? c.field := same _
  simp only [valueIn, Header.first, Header.address, Header.addresses, find]

/-- What a matcher says has nothing of `Bcc` in it. -/
theorem Matcher.verdict_congr (m : Matcher) {h k : Header} (agree : h.AgreeButBcc k) :
    m.verdict h = m.verdict k := by
  cases m with
  | everything => rfl
  | field c =>
    unfold verdict
    rcases Email.reconcile_agree agree with ⟨failure, hh, hk⟩ | ⟨view, view', hh, hk, same, -⟩
    · simp only [hh, hk]
    · simp only [hh, hk, bind, Except.bind, c.valueIn_congr same]

namespace Rule

variable {h k : Header}

theorem allVerdict_congr (ms : List Matcher) (agree : h.AgreeButBcc k) :
    allVerdict h ms = allVerdict k ms := by
  induction ms with
  | nil => rfl
  | cons m ms ih => rw [allVerdict, allVerdict, m.verdict_congr agree, ih]

theorem verdict_congr (r : Rule) (agree : h.AgreeButBcc k) : r.verdict h = r.verdict k := by
  rw [verdict, verdict, allVerdict_congr r.matchers agree]

end Rule

theorem Router.choose_congr (router : Router) {h k : Header} (agree : h.AgreeButBcc k) :
    router.choose h = router.choose k := by
  have general : ∀ (rules : List Rule) (position : Nat),
      chooseFrom position h rules = chooseFrom position k rules := by
    intro rules
    induction rules with
    | nil => exact fun _ => rfl
    | cons r rules ih =>
      intro position
      rw [chooseFrom, chooseFrom, r.verdict_congr agree, ih]
  exact general router.rules 0

/-! ### Rewriting -/

open Header in
/-- An action leaves headers alike that were so, as no template looks at `Bcc`. -/
theorem Action.rewritten_alike (a : Action) {h k : Header} (alike : h.AlikeButBcc k) :
    (rewritten h a).AlikeButBcc (rewritten k a) := by
  have same : Template.render h.first a.template = Template.render k.first a.template :=
    Template.render_congr fun field mentions =>
      alike.first (Template.canonical_ne_of_mentions mentions)
  refine ⟨alike.replaceValues (FieldName.canonical a.field) (Template.render h.first a.template)
    rfl (by rw [same]; rfl), ?_⟩
  unfold rewritten
  simp only [lookup?_replaceValues, same, addresses, find?, FieldName.canonical_bcc]
  split
  · exact .inl rfl
  · exact alike.bcc

theorem Rule.rewritten_alike (r : Rule) {h k : Header} (alike : h.AlikeButBcc k) :
    (r.rewritten h).AlikeButBcc (r.rewritten k) := by
  unfold rewritten
  induction r.actions generalizing h k with
  | nil => exact alike
  | cons a actions ih => exact ih (a.rewritten_alike alike)

/-! ### Sending -/

namespace Email

open Header

variable {h k : Header}

/-- The envelopes of two messages have the same sender and the same recipients of `To` and `Cc`, or
there is none for the same reason. -/
theorem envelope?_alike (alike : h.AlikeButBcc k) :
    (∃ failure, envelope? h = .error failure ∧ envelope? k = .error failure) ∨
      ∃ sender primary cc bcc bcc', h.addresses "to" = .ok primary ∧ h.addresses "cc" = .ok cc ∧
        h.addresses "bcc" = .ok bcc ∧ k.addresses "bcc" = .ok bcc' ∧
        envelope? h = .ok (sender, primary ++ cc ++ bcc) ∧
        envelope? k = .ok (sender, primary ++ cc ++ bcc') := by
  have shown : ∀ field ∈ shownFields, FieldName.canonical field ≠ Text.ofString "Bcc" := by decide
  unfold envelope?
  simp only [← alike.addresses (shown "from" (by decide)),
    ← alike.addresses (shown "to" (by decide)), ← alike.addresses (shown "cc" (by decide))]
  rcases h.addresses "from" with fault | senders
  · exact .inl ⟨_, rfl, rfl⟩
  rcases h.addresses "to" with fault | primary
  · exact .inl ⟨_, rfl, rfl⟩
  rcases h.addresses "cc" with fault | cc
  · exact .inl ⟨_, rfl, rfl⟩
  -- the fields are read in order, so `Bcc` is looked at only where the others can be read
  rcases alike.addresses_bcc with ⟨fault, hb, hb'⟩ | ⟨bcc, bcc', hb, hb'⟩
  · simp only [hb, hb']
    exact .inl ⟨_, rfl, rfl⟩
  simp only [hb, hb']
  rcases senders with _ | ⟨sender, senders⟩
  · exact .inl ⟨_, rfl, rfl⟩
  rcases primary with _ | ⟨recipient, primary⟩
  · exact .inl ⟨_, rfl, rfl⟩
  exact .inr ⟨sender, _, cc, bcc, bcc', rfl, rfl, rfl, rfl, rfl, rfl⟩

end Email

/-- Two dispatches are alike but for the hidden recipients: these come last, and all else is the
same. -/
structure Dispatch.AlikeButBcc (h k : Header) (x y : Dispatch) : Prop where
  host : x.host = y.host
  auth : x.auth = y.auth
  sender : x.sender = y.sender
  message : x.message = y.message
  recipients : ∃ primary cc bcc bcc', h.addresses "to" = .ok primary ∧ h.addresses "cc" = .ok cc ∧
    h.addresses "bcc" = .ok bcc ∧ k.addresses "bcc" = .ok bcc' ∧
    x.recipients = (primary ++ cc).addresses ++ bcc.addresses ∧
    y.recipients = (primary ++ cc).addresses ++ bcc'.addresses

theorem Email.dispatch?_alike {h k : Header} (alike : h.AlikeButBcc k) (message : Octets)
    (auth : Option Auth) (host : Text) :
    (∃ failure, dispatch? h message auth host = .error failure ∧
        dispatch? k message auth host = .error failure) ∨
      ∃ x y text text', dispatch? h message auth host = .ok (x, text) ∧
        dispatch? k message auth host = .ok (y, text') ∧ x.AlikeButBcc h k y := by
  unfold dispatch?
  rw [octets?_congr alike.toAgreeButBcc message]
  rcases envelope?_alike alike with ⟨failure, hh, hk⟩ |
    ⟨sender, primary, cc, bcc, bcc', ht, hc, hb, hb', hh, hk⟩
  · rw [hh, hk]
    exact .inl ⟨failure, rfl, rfl⟩
  · rw [hh, hk]
    cases octets? k message with
    | error failure => exact .inl ⟨failure, rfl, rfl⟩
    | ok wire =>
      have recipients (hidden : AddressList) : (primary ++ cc ++ hidden).addresses =
          (primary ++ cc).addresses ++ hidden.addresses := by simp [AddressList.addresses]
      exact .inr ⟨_, _, _, _, rfl, rfl, rfl, rfl, rfl, rfl, primary, cc, bcc, bcc', ht, hc, hb, hb',
        recipients bcc, recipients bcc'⟩

/-! ### Routing -/

/-- What routing two messages comes to is alike but for the hidden recipients: both are left with
headers that agree but for `Bcc` and with the same credentials, and either none is handed on and
the result is the same, or the same rule has decided, the dispatches are alike, and it depends on
the mailers whether that is the result. -/
structure Routed.AlikeButBcc (mailer mailer' : Mailer) (x y : Routed) : Prop where
  header : x.header.AgreeButBcc y.header
  auth : x.auth = y.auth
  handed : (x.dispatch = none ∧ y.dispatch = none ∧ x.result = y.result) ∨
    ∃ a b decision, x.dispatch = some a ∧ y.dispatch = some b ∧
      a.AlikeButBcc x.header y.header b ∧
      x.result = (mailer a).result.map (fun _ => decision) ∧
      y.result = (mailer' b).result.map fun _ => decision

theorem Router.routed_alike (router : Router) (mailer mailer' : Mailer) (dryRun : Bool)
    {e e' : Email} (message : e.message = e'.message) (auth : e.auth = e'.auth)
    (alike : e.header.AlikeButBcc e'.header) :
    (router.routed mailer dryRun e).AlikeButBcc mailer mailer'
      (router.routed mailer' dryRun e') := by
  unfold routed Decision.routed
  rw [router.choose_congr alike.toAgreeButBcc, message]
  cases router.choose e'.header with
  | error failure => exact ⟨alike.toAgreeButBcc, auth, .inl ⟨rfl, rfl, rfl⟩⟩
  | ok decision =>
    have after := decision.rule.rewritten_alike alike
    cases dryRun with
    | true => exact ⟨after.toAgreeButBcc, rfl, .inl ⟨rfl, rfl, rfl⟩⟩
    | false =>
      rcases Email.dispatch?_alike after e'.message decision.rule.auth decision.rule.server with
        ⟨failure, hh, hk⟩ | ⟨x, y, text, text', hh, hk, dispatched⟩
      · simp only [hh, hk, Bool.false_eq_true, if_false]
        exact ⟨after.toAgreeButBcc, rfl, .inl ⟨rfl, rfl, rfl⟩⟩
      · simp only [hh, hk, Bool.false_eq_true, if_false]
        exact ⟨after.toAgreeButBcc, rfl, .inr ⟨x, y, decision, rfl, rfl, dispatched, rfl, rfl⟩⟩

/-- A dispatch has the written view of a header before the body, and in that no line for `Bcc`
unless the name or the first value of a field makes one. -/
def Dispatch.ShowsNoBcc (h : Header) (message : Octets) (x : Dispatch) : Prop :=
  ∃ view head, Email.reconcile h = .ok view ∧ view.write? = some head ∧
    x.message = head ++ [0x0D, 0x0A, 0x0D, 0x0A] ++ message ∧
    ((∀ f ∈ view.written, f.name.IsName ∧ f.first.IsUnbroken) →
      ∀ line ∈ Framing.crlfLines head, line.namesBcc = false)

theorem Email.showsNoBcc_of_dispatch? {h : Header} {message : Octets} {auth : Option Auth}
    {host : Text} {x : Dispatch} {text : Option Text}
    (e : dispatch? h message auth host = .ok (x, text)) : x.ShowsNoBcc h message := by
  obtain ⟨sender, recipients, -, hwire, -⟩ := dispatch?_eq_ok e
  obtain ⟨view, head, hview, hwrite, hmessage⟩ := octets?_eq_ok hwire
  exact ⟨view, head, hview, hwrite, hmessage, fun plain =>
    Header.not_namesBcc_of_write? hwrite (fun f hf => (plain f hf).1) fun f hf => (plain f hf).2⟩

/-- Two messages are routed alike but for the hidden recipients, and what is handed on shows
nobody that there are any. -/
def Router.RoutesAlike (router : Router) (mailer mailer' : Mailer) (dryRun : Bool) (d d' : Desk) :
    Prop :=
  ∃ x y : Routed, ∃ d₁ d₁' : Desk,
    perform (router.deliver mailer dryRun) d = (x.result, d₁) ∧ RoutedAt mailer d d₁ x ∧
    perform (router.deliver mailer' dryRun) d' = (y.result, d₁') ∧ RoutedAt mailer' d' d₁' y ∧
    x.AlikeButBcc mailer mailer' y ∧
    ∀ dispatch, x.dispatch = some dispatch →
      dispatch.ShowsNoBcc d₁.email.header d.email.message

/-- A router with one rule, by which every message is handed on as it is. -/
def Router.relaying (host : Text) : Router := ⟨⟨"relay", [.everything], [], none, host⟩, []⟩

/-- A message with some fields beside its sender and its recipient. -/
def Desk.withFields (fields : List (Text × List Text)) : Desk :=
  ⟨.ofParts (.ofFields (("From", ["a@b.c"]) :: ("To", ["x@y.org"]) :: fields)) [], []⟩

theorem Desk.message_withFields (fields : List (Text × List Text)) :
    (withFields fields).email.message = [] := rfl

theorem Desk.auth_withFields (fields : List (Text × List Text)) :
    (withFields fields).email.auth = none := rfl

/-- A mailer that takes no message for a recipient. -/
def Mailer.refusing (recipient : Text) : Mailer := fun dispatch =>
  ⟨[], if recipient ∈ dispatch.recipients then .error (.reported .delivery "refused") else .ok ()⟩

end Mailroom
