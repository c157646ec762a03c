import Mailroom.Proofs.Message.Desk
import Mailroom.Routing

/-!
# What routing comes to

The steps of routing keep views and write a journal; what they come to is a function of the
header alone.

* `Matcher.verdict`, `Rule.verdict`, `Router.choose`: what is accepted, and what decides;
* `Router.chooseFrom_eq_ok`: the rule that decides is the first that accepts;
* `Action.rewritten`, `Rule.rewritten`: a header after the actions of a rule;
* `Email.dispatch?`: the dispatch of a message, or why there is none;
* `Work.perform_send`, `Router.perform_decide`: the steps come to that;
* `Router.routed`: all of it together, which `Router.perform_deliver` comes to.
-/

namespace Mailroom

/-! ### Matching -/

namespace Matcher

/-- A matcher accepts a message with a header. -/
def verdict (m : Matcher) (h : Header) : Except Mailroom.Failure Bool :=
  match m with
  | everything => .ok true
  | field c => do
    let view ← Email.reconcile h
    match ← c.valueIn view with
    | some value => (c.accepts value).mapError fun cause => .breakdown (.pattern cause)
    | none => .ok false

theorem perform_accepts (m : Matcher) {d : Desk} (coherent : d.email.IsCoherent) :
    ∃ d', perform m.accepts d = (m.verdict d.email.header, d') ∧ d.Refreshed d' := by
  cases m with
  | everything => exact ⟨d, rfl, .refl d⟩
  | field c =>
    obtain ⟨d', hview, refreshed⟩ := Work.perform_view coherent
    refine ⟨d', ?_, refreshed⟩
    unfold accepts verdict
    rw [perform_bind, hview]
    cases Email.reconcile d.email.header with
    | error failure => rfl
    | ok view =>
      show perform (Work.ofExcept (c.valueIn view) >>= _) d' = (c.valueIn view >>= _, d')
      rw [perform_bind, Work.perform_ofExcept]
      rcases c.valueIn view with failure | _ | value
      · rfl
      · rfl
      · exact Work.perform_ofExcept _ d'

theorem fst_perform_accepts (m : Matcher) {d : Desk} (coherent : d.email.IsCoherent) :
    (perform m.accepts d).1 = m.verdict d.email.header := by
  obtain ⟨d', haccepts, -⟩ := m.perform_accepts coherent
  rw [haccepts]

end Matcher

namespace Rule

/-- All of the matchers accept a message with a header; they are asked until one does not. -/
def allVerdict (h : Header) : List Matcher → Except Failure Bool
  | [] => .ok true
  | m :: ms => do
    if ← m.verdict h then allVerdict h ms else .ok false

/-- A rule accepts a message with a header. -/
def verdict (r : Rule) (h : Header) : Except Failure Bool :=
  if r.matchers.isEmpty then .ok false else allVerdict h r.matchers

theorem perform_allAccept (ms : List Matcher) {d : Desk} (coherent : d.email.IsCoherent) :
    ∃ d', perform (allAccept ms) d = (allVerdict d.email.header ms, d') ∧ d.Refreshed d' := by
  induction ms generalizing d with
  | nil => exact ⟨d, rfl, .refl d⟩
  | cons m ms ih =>
    obtain ⟨d₁, hm, refreshed⟩ := m.perform_accepts coherent
    unfold allAccept allVerdict
    rw [perform_bind, hm]
    rcases m.verdict d.email.header with failure | _ | _
    · exact ⟨d₁, rfl, refreshed⟩
    · exact ⟨d₁, rfl, refreshed⟩
    · obtain ⟨d₂, hms, refreshed'⟩ := ih (refreshed.coherent coherent)
      refine ⟨d₂, ?_, refreshed.trans refreshed'⟩
      rw [refreshed.header] at hms
      exact hms

theorem perform_accepts (r : Rule) {d : Desk} (coherent : d.email.IsCoherent) :
    ∃ d', perform r.accepts d = (r.verdict d.email.header, d') ∧ d.Refreshed d' := by
  unfold accepts verdict
  split
  · exact ⟨d, rfl, .refl d⟩
  · exact perform_allAccept r.matchers coherent

theorem fst_perform_accepts (r : Rule) {d : Desk} (coherent : d.email.IsCoherent) :
    (perform r.accepts d).1 = r.verdict d.email.header := by
  obtain ⟨d', haccepts, -⟩ := r.perform_accepts coherent
  rw [haccepts]

end Rule

/-! ### Rewriting -/

/-- A header with a rendered template in place of a field. -/
def Action.rewritten (h : Header) (a : Action) : Header :=
  { h with
    fields := Header.replaceValues (FieldName.canonical a.field)
      (Template.render h.first a.template) h.fields
    revision := h.revision + 1 }

namespace Rule

/-- A header after the actions of a rule. -/
def rewritten (r : Rule) (h : Header) : Header := r.actions.foldl Action.rewritten h

/-- Every action is a change of the header that counts. -/
theorem revision_foldl_rewritten (actions : List Action) (h : Header) :
    (actions.foldl Action.rewritten h).revision = h.revision + actions.length := by
  induction actions generalizing h with
  | nil => rfl
  | cons a actions ih =>
    rw [List.foldl_cons, ih, List.length_cons]
    show h.revision + 1 + actions.length = _
    omega

/-- On a header that may be changed, all actions of a rule are carried out. -/
theorem perform_apply (r : Rule) {d : Desk} (writable : d.email.header.isReadOnly = false) :
    perform r.apply d =
      (.ok (), { d with email := { d.email with header := r.rewritten d.email.header } }) := by
  unfold apply rewritten
  rw [List.forM_eq_forM]
  generalize r.actions = actions
  induction actions generalizing d with
  | nil => rfl
  | cons a actions ih =>
    have step : perform (do
        let email ← Work.email
        Work.setHeader a.field (Template.render email.header.first a.template)) d =
        (.ok (), { d with email := { d.email with
          header := Action.rewritten d.email.header a } }) := by
      rw [perform_bind_ok (Work.perform_email d)]
      unfold Work.setHeader
      rw [Work.perform_changeHeader, Header.set, if_neg (by simp [writable])]
      rfl
    rw [List.forM_cons, perform_bind_ok step]
    exact ih (d := { d with email := { d.email with
      header := Action.rewritten d.email.header a } }) writable

/-- The actions of a rule can be carried out on a header: it may be changed, or there are none. -/
def CanApply (r : Rule) (h : Header) : Prop := h.isReadOnly = true → r.actions = []

theorem perform_apply_of_canApply {r : Rule} {d : Desk} (can : r.CanApply d.email.header) :
    perform r.apply d =
      (.ok (), { d with email := { d.email with header := r.rewritten d.email.header } }) := by
  cases closed : d.email.header.isReadOnly with
  | false => exact r.perform_apply closed
  | true =>
    unfold apply rewritten
    rw [can closed]
    rfl

/-- On a header that is closed, the first action is refused, and none is carried out. -/
theorem perform_apply_of_not_canApply {r : Rule} {d : Desk} (cannot : ¬ r.CanApply d.email.header) :
    perform r.apply d = (.error (.header .readOnly), d) := by
  obtain ⟨closed, some_action⟩ := Classical.not_imp.1 cannot
  obtain ⟨a, actions, hr⟩ := List.exists_cons_of_ne_nil some_action
  unfold apply
  rw [List.forM_eq_forM, hr, List.forM_cons]
  refine perform_bind_error ?_
  rw [perform_bind_ok (Work.perform_email d)]
  unfold Work.setHeader
  rw [Work.perform_changeHeader, Header.set, if_pos closed]

theorem isCoherent_rewritten (r : Rule) {e : Email} (coherent : e.IsCoherent) :
    { e with header := r.rewritten e.header }.IsCoherent := by
  cases hr : r.actions with
  | nil =>
    have : r.rewritten e.header = e.header := by rw [rewritten, hr]; rfl
    rw [this]
    exact coherent
  | cons a actions =>
    refine coherent.of_newer ?_
    rw [rewritten, revision_foldl_rewritten, hr, List.length_cons]
    omega

end Rule

/-! ### Deciding -/

namespace Router

/-- The rule that decides for a message with a header, and its position. -/
def chooseFrom (position : Nat) (h : Header) : List Rule → Except Failure Decision
  | [] => .error .noRoute
  | r :: rules => do
    if ← r.verdict h then .ok ⟨r, position⟩ else chooseFrom (position + 1) h rules

/-- The rule of a router that decides for a message with a header. -/
def choose (router : Router) (h : Header) : Except Failure Decision := chooseFrom 0 h router.rules

/-- The rule that decides accepts the message, and the rules before it do not. -/
theorem chooseFrom_eq_ok {h : Header} {rules : List Rule} {position : Nat} {decision : Decision}
    (e : chooseFrom position h rules = .ok decision) :
    ∃ before after, rules = before ++ decision.rule :: after ∧
      decision.position = position + before.length ∧ decision.rule.verdict h = .ok true ∧
      ∀ r ∈ before, r.verdict h = .ok false := by
  induction rules generalizing position with
  | nil => cases e
  | cons r rules ih =>
    unfold chooseFrom at e
    rcases hr : r.verdict h with failure | _ | _ <;> rw [hr] at e
    · cases e
    · obtain ⟨before, after, rfl, hposition, accepts, earlier⟩ := ih e
      refine ⟨r :: before, after, rfl, ?_, accepts, List.forall_mem_cons.2 ⟨hr, earlier⟩⟩
      rw [hposition, List.length_cons]
      omega
    · cases e
      exact ⟨[], rules, rfl, rfl, hr, fun _ hmem => by cases hmem⟩

end Router

/-- A decision is for the first of some rules that accepts a message with a header. -/
def Decision.IsFirst (decision : Decision) (rules : List Rule) (h : Header) : Prop :=
  ∃ before after, rules = before ++ decision.rule :: after ∧
    decision.position = before.length ∧ decision.rule.verdict h = .ok true ∧
    ∀ r ∈ before, r.verdict h = .ok false

namespace Router

theorem chooseFrom_append {before : List Rule} {r : Rule} {h : Header} (after : List Rule)
    (position : Nat) (accepts : r.verdict h = .ok true)
    (earlier : ∀ r ∈ before, r.verdict h = .ok false) :
    chooseFrom position h (before ++ r :: after) = .ok ⟨r, position + before.length⟩ := by
  induction before generalizing position with
  | nil =>
    rw [List.nil_append, chooseFrom, accepts]
    rfl
  | cons first before ih =>
    rw [List.forall_mem_cons] at earlier
    rw [List.cons_append, chooseFrom, earlier.1, List.length_cons, Nat.add_comm before.length,
      ← Nat.add_assoc]
    exact ih (position + 1) earlier.2

theorem chooseFrom_zero_eq_ok_iff {rules : List Rule} {h : Header} {decision : Decision} :
    chooseFrom 0 h rules = .ok decision ↔ decision.IsFirst rules h := by
  constructor
  · intro e
    obtain ⟨before, after, split, position, accepts, earlier⟩ := chooseFrom_eq_ok e
    exact ⟨before, after, split, by rw [position, Nat.zero_add], accepts, earlier⟩
  · rintro ⟨before, after, split, position, accepts, earlier⟩
    rw [split, chooseFrom_append after 0 accepts earlier, Nat.zero_add, ← position]

end Router

/-- A message as a rule leaves it that has decided about it. -/
def Email.decided (e : Email) (r : Rule) : Email :=
  { e with header := r.rewritten e.header, auth := r.auth }

namespace Router

/-- The desk after a decision has been carried out. -/
structure DecidedAt (d d' : Desk) (r : Rule) : Prop where
  journal : d'.journal = d.journal ++ [.log ⟨.debug, some (matchedText r)⟩]
  header : d'.email.header = r.rewritten d.email.header
  message : d'.email.message = d.email.message
  auth : d'.email.auth = r.auth
  coherent : d.email.IsCoherent → d'.email.IsCoherent

/-- The views that are kept on the way to a decision make no difference to it. -/
theorem DecidedAt.of_refreshed {d d₁ d₂ : Desk} {r : Rule} (refreshed : d.Refreshed d₁)
    (after : DecidedAt d₁ d₂ r) : DecidedAt d d₂ r where
  journal := by rw [after.journal, refreshed.journal]
  header := by rw [after.header, refreshed.header]
  message := by rw [after.message, refreshed.message]
  auth := after.auth
  coherent := after.coherent ∘ refreshed.coherent

theorem decidedAt_decided (d : Desk) (r : Rule) :
    DecidedAt d ⟨d.email.decided r, d.journal ++ [.log ⟨.debug, some (matchedText r)⟩]⟩ r where
  journal := rfl
  header := rfl
  message := rfl
  auth := rfl
  coherent := r.isCoherent_rewritten

/-- The desk after a decision that could not be carried out. -/
structure RefusedAt (d d' : Desk) (r : Rule) : Prop where
  journal : d'.journal = d.journal ++ [.log ⟨.debug, some (matchedText r)⟩]
  header : d'.email.header = d.email.header
  message : d'.email.message = d.email.message
  auth : d'.email.auth = d.email.auth
  coherent : d.email.IsCoherent → d'.email.IsCoherent

/-- What deciding comes to, given what the header decides: the desk afterwards, and the result. A
decision is refused if the header is closed to the actions of its rule. -/
inductive Comes (d d' : Desk) : Except Failure Decision → Except Failure Decision → Prop where
  | undecided (failure : Failure) (after : d.Refreshed d') :
      Comes d d' (.error failure) (.error failure)
  | decided {decision : Decision} (can : decision.rule.CanApply d.email.header)
      (after : DecidedAt d d' decision.rule) : Comes d d' (.ok decision) (.ok decision)
  | refused {decision : Decision} (cannot : ¬ decision.rule.CanApply d.email.header)
      (after : RefusedAt d d' decision.rule) :
      Comes d d' (.ok decision) (.error (.header .readOnly))

/-- The views that are kept on the way to a decision make no difference to what it comes to. -/
theorem Comes.of_refreshed {d d₁ d₂ : Desk} {chosen result : Except Failure Decision}
    (refreshed : d.Refreshed d₁) (comes : Comes d₁ d₂ chosen result) :
    Comes d d₂ chosen result := by
  cases comes with
  | undecided failure after => exact .undecided failure (refreshed.trans after)
  | decided can after =>
    rw [refreshed.header] at can
    exact .decided can (after.of_refreshed refreshed)
  | refused cannot after =>
    rw [refreshed.header] at cannot
    exact .refused cannot ⟨by rw [after.journal, refreshed.journal],
      after.header.trans refreshed.header, after.message.trans refreshed.message,
      after.auth.trans refreshed.auth, after.coherent ∘ refreshed.coherent⟩

/-- Rules are tried in order: each verdict is that for the header, whatever view it is read from. -/
theorem comes_decideFrom (rules : List Rule) (position : Nat) {d : Desk}
    (coherent : d.email.IsCoherent) :
    Comes d (perform (decideFrom position rules) d).2
      (chooseFrom position d.email.header rules) (perform (decideFrom position rules) d).1 := by
  induction rules generalizing position d with
  | nil => exact .undecided .noRoute (.refl d)
  | cons r rules ih =>
    -- a verdict leaves a new view at most, so the header is the same for the rules that follow
    obtain ⟨d₁, hr, refreshed⟩ := r.perform_accepts coherent
    unfold decideFrom chooseFrom
    rw [perform_bind, hr]
    rcases r.verdict d.email.header with failure | _ | _
    · exact .undecided failure refreshed
    · have := ih (position + 1) (refreshed.coherent coherent)
      rw [refreshed.header] at this
      exact .of_refreshed refreshed this
    · refine .of_refreshed refreshed ?_
      simp only [if_true]
      rw [perform_bind_ok (Work.perform_log .debug (some (matchedText r)) d₁)]
      let d₂ : Desk := ⟨d₁.email, d₁.journal ++ [.log ⟨.debug, some (matchedText r)⟩]⟩
      by_cases can : r.CanApply d₁.email.header
      · rw [perform_bind_ok (Rule.perform_apply_of_canApply (d := d₂) can)]
        exact .decided can (decidedAt_decided d₁ r)
      · rw [perform_bind_error (Rule.perform_apply_of_not_canApply (d := d₂) can)]
        exact .refused can ⟨rfl, rfl, rfl, rfl, id⟩

/-- **The decision of a router is that for the header**, and it is carried out, unless the header
is closed to the actions of the rule. -/
theorem comes_decide (router : Router) {d : Desk} (coherent : d.email.IsCoherent) :
    Comes d (perform router.decide d).2 (router.choose d.email.header)
      (perform router.decide d).1 :=
  comes_decideFrom router.rules 0 coherent

/-- On a header that may be changed, the actions of the rule rewrite it, and the message gets its
credentials. -/
theorem perform_decide (router : Router) {d : Desk} (coherent : d.email.IsCoherent)
    (writable : d.email.header.isReadOnly = false) :
    ∃ d', perform router.decide d = (router.choose d.email.header, d') ∧
      match router.choose d.email.header with
      | .ok decision => DecidedAt d d' decision.rule
      | .error _ => d.Refreshed d' := by
  have comes := router.comes_decide coherent
  generalize perform router.decide d = p at comes ⊢
  generalize router.choose d.email.header = chosen at comes ⊢
  obtain ⟨result, d'⟩ := p
  refine ⟨d', ?_⟩
  cases comes with
  | undecided failure after => exact ⟨rfl, after⟩
  | decided can after => exact ⟨rfl, after⟩
  | refused cannot after => exact absurd (fun closed => by simp [writable] at closed) cannot

end Router

/-! ### Sending -/

namespace Email

/-- The envelope of a message with a header: the sender, and all recipients. -/
def envelope? (h : Header) : Except Failure (Address × AddressList) := do
  let addresses (field : Text) := (h.addresses field).mapError (Failure.ofField field)
  let sender ← addresses "from"
  let primary ← addresses "to"
  let cc ← addresses "cc"
  let bcc ← addresses "bcc"
  match sender.head? with
  | none => .error .undeliverable
  | some sender =>
    if primary.isEmpty then .error .undeliverable else .ok (sender, primary ++ cc ++ bcc)

/-- The octets that a message with a header and a body is sent as. -/
def octets? (h : Header) (message : Octets) : Except Failure Octets := do
  let view ← reconcile h
  match wire? view message with
  | none => .error (.breakdown .unencodable)
  | some wire => .ok wire

/-- The dispatch of a message to a host, with what is logged before it. -/
def dispatch? (h : Header) (message : Octets) (auth : Option Auth) (host : Text) :
    Except Failure (Dispatch × Option Text) := do
  let (sender, recipients) ← envelope? h
  (octets? h message).map fun wire =>
    (⟨host, auth, sender.address, recipients.addresses, wire⟩,
      sendingText sender recipients host)

end Email

theorem Email.octets?_eq_ok {h : Header} {message wire : Octets}
    (e : octets? h message = .ok wire) :
    ∃ view head, reconcile h = .ok view ∧ view.write? = some head ∧
      wire = head ++ [0x0D, 0x0A, 0x0D, 0x0A] ++ message := by
  obtain ⟨view, hview, e⟩ := bind_eq_ok_iff.1 e
  split at e
  · cases e
  · next wire' hwire =>
    cases e
    obtain ⟨head, hwrite, rfl⟩ := Option.map_eq_some_iff.1 hwire
    exact ⟨view, head, hview, hwrite, rfl⟩

theorem Email.dispatch?_eq_ok {h : Header} {message : Octets} {auth : Option Auth} {host : Text}
    {x : Dispatch} {text : Option Text} (e : dispatch? h message auth host = .ok (x, text)) :
    ∃ sender recipients, envelope? h = .ok (sender, recipients) ∧
      octets? h message = .ok x.message ∧
      x = ⟨host, auth, sender.address, recipients.addresses, x.message⟩ := by
  obtain ⟨⟨sender, recipients⟩, henvelope, e⟩ := bind_eq_ok_iff.1 e
  obtain ⟨wire, hwire, e⟩ := map_eq_ok_iff.1 e
  cases e
  exact ⟨sender, recipients, henvelope, hwire, rfl⟩

/-- The addresses of a message are those of its header. -/
theorem Email.addresses_eq_ok_iff {e : Email} {field : Text} {l : AddressList} :
    e.addresses field = .ok l ↔ e.header.addresses field = .ok l :=
  mapError_eq_ok_iff

theorem Email.sender_eq_ok_some_iff {e : Email} {a : Address} :
    e.sender = .ok (some a) ↔ ∃ more, e.header.addresses "from" = .ok (a :: more) := by
  rw [sender, map_eq_ok_iff]
  constructor
  · rintro ⟨l, parses, first⟩
    obtain ⟨more, rfl⟩ := List.head?_eq_some_iff.1 first
    exact ⟨more, addresses_eq_ok_iff.1 parses⟩
  · rintro ⟨more, parses⟩
    exact ⟨_, addresses_eq_ok_iff.2 parses, List.head?_cons⟩

/-- An envelope has the first address of the sender's field, and all addresses of the recipients'
fields; there has to be one in `From` and one in `To`. -/
theorem Email.envelope?_eq_ok_iff {h : Header} {sender : Address} {recipients : AddressList} :
    envelope? h = .ok (sender, recipients) ↔ ∃ senders primary cc bcc,
      h.addresses "from" = .ok (sender :: senders) ∧ h.addresses "to" = .ok primary ∧
        h.addresses "cc" = .ok cc ∧ h.addresses "bcc" = .ok bcc ∧ primary ≠ [] ∧
        recipients = primary ++ cc ++ bcc := by
  constructor
  · intro e
    obtain ⟨senders, hs, e⟩ := bind_eq_ok_iff.1 e
    obtain ⟨primary, ht, e⟩ := bind_eq_ok_iff.1 e
    obtain ⟨cc, hc, e⟩ := bind_eq_ok_iff.1 e
    obtain ⟨bcc, hb, e⟩ := bind_eq_ok_iff.1 e
    rw [mapError_eq_ok_iff] at hs ht hc hb
    cases senders with
    | nil => cases e
    | cons first senders =>
      dsimp only [List.head?_cons] at e
      split at e
      · cases e
      · next some_recipient =>
        cases e
        exact ⟨senders, primary, cc, bcc, hs, ht, hc, hb, by simpa using some_recipient, rfl⟩
  · rintro ⟨senders, primary, cc, bcc, hs, ht, hc, hb, some_recipient, rfl⟩
    unfold envelope?
    simp only [hs, ht, hc, hb, mapError_ok, bind, Except.bind, List.head?_cons]
    rw [if_neg (by simpa using some_recipient)]

/-- A message that has an envelope has a sender, and its address fields can be read. -/
theorem Email.envelope?_eq_ok {h : Header} {sender : Address} {recipients : AddressList}
    (e : envelope? h = .ok (sender, recipients)) :
    (∃ senders, h.addresses "from" = .ok (sender :: senders)) ∧
      ∀ field ∈ Email.shownFields, ∃ addresses, h.addresses field = .ok addresses := by
  obtain ⟨senders, primary, cc, bcc, hs, ht, hc, -⟩ := envelope?_eq_ok_iff.1 e
  refine ⟨⟨senders, hs⟩, ?_⟩
  simp only [Email.shownFields, List.forall_mem_cons]
  exact ⟨⟨_, hs⟩, ⟨primary, ht⟩, ⟨cc, hc⟩, fun field hfield => (by cases hfield)⟩

/-- A dispatch is logged, handed on, and comes to what the mailer makes of it. -/
theorem Work.perform_handing (mailer : Mailer) (dispatch : Dispatch) (text : Option Text)
    (d : Desk) :
    perform (do
        log .debug text
        note (.dispatch dispatch)
        modify fun desk => { desk with journal := desk.journal ++ (mailer dispatch).journal }
        ofExcept (mailer dispatch).result) d =
      ((mailer dispatch).result, { d with
        journal := d.journal ++ [.log ⟨.debug, text⟩, .dispatch dispatch] ++
          (mailer dispatch).journal }) := by
  rw [perform_bind_ok (perform_log .debug text d), perform_bind_ok (perform_note _ _),
    perform_bind_ok (perform_modify _ _), perform_ofExcept, List.append_assoc d.journal]
  rfl

/-- What is done with the octets of a message is done with those of its header and body. -/
theorem Work.perform_octets {α : Type} (message : Octets) {d : Desk}
    (coherent : d.email.IsCoherent) :
    ∃ d', d.Refreshed d' ∧ ∀ next : Octets → Work α,
      perform (do
          let view ← view
          match Email.wire? view message with
          | none => throw (.breakdown .unencodable)
          | some wire => next wire) d =
        match Email.octets? d.email.header message with
        | .error failure => (.error failure, d')
        | .ok wire => perform (next wire) d' := by
  obtain ⟨d', hview, refreshed⟩ := perform_view coherent
  refine ⟨d', refreshed, fun next => ?_⟩
  rw [perform_bind, hview]
  unfold Email.octets?
  cases Email.reconcile d.email.header with
  | error failure => rfl
  | ok header =>
    simp only [bind, Except.bind]
    cases Email.wire? header message <;> rfl

/-- **Sending comes to the dispatch of the message**, once, and to what the mailer makes of it. -/
theorem Work.perform_send (mailer : Mailer) (host : Text) {d : Desk}
    (coherent : d.email.IsCoherent) :
    ∃ d', d.Refreshed d' ∧ perform (send mailer host) d =
      match Email.dispatch? d.email.header d.email.message d.email.auth host with
      | .error failure => (.error failure, d')
      | .ok (dispatch, text) => ((mailer dispatch).result, { d' with
          journal := d'.journal ++ [.log ⟨.debug, text⟩, .dispatch dispatch] ++
            (mailer dispatch).journal }) := by
  unfold send Email.dispatch? Email.envelope?
  rw [perform_bind_ok (perform_email d)]
  -- the fields of the envelope are read from the header itself, so nothing is kept so far
  simp only [perform_bind, perform_ofExcept, Email.sender, Email.addresses]
  rcases (d.email.header.addresses (Text.ofString "from")).mapError
    (Failure.ofField (Text.ofString "from")) with failure | senders
  · exact ⟨d, .refl d, rfl⟩
  rcases (d.email.header.addresses (Text.ofString "to")).mapError
    (Failure.ofField (Text.ofString "to")) with failure | primary
  · exact ⟨d, .refl d, rfl⟩
  rcases (d.email.header.addresses (Text.ofString "cc")).mapError
    (Failure.ofField (Text.ofString "cc")) with failure | cc
  · exact ⟨d, .refl d, rfl⟩
  rcases (d.email.header.addresses (Text.ofString "bcc")).mapError
    (Failure.ofField (Text.ofString "bcc")) with failure | bcc
  · exact ⟨d, .refl d, rfl⟩
  rcases senders with _ | ⟨sender, senders⟩
  · exact ⟨d, .refl d, rfl⟩
  rcases primary with _ | ⟨recipient, primary⟩
  · exact ⟨d, .refl d, rfl⟩
  obtain ⟨d', refreshed, performs⟩ := perform_octets d.email.message coherent
  refine ⟨d', refreshed, (performs _).trans ?_⟩
  simp only [bind, Except.bind, List.head?_cons, List.isEmpty_cons]
  cases Email.octets? d.email.header d.email.message with
  | error failure => rfl
  | ok wire => exact perform_handing mailer _ _ d'

/-! ### Delivering -/

/-- A mailer that takes every message. -/
def Mailer.accepting : Mailer := fun _ => ⟨[], .ok ()⟩

/-- What routing a message comes to, apart from the log: the header and the credentials that it
is left with, and the dispatch that was handed on. -/
structure Routed where
  result : Except Failure Decision
  header : Header
  auth : Option Auth
  dispatch : Option Dispatch

/-- What a decision comes to that is carried out. -/
def Decision.routed (decision : Decision) (mailer : Mailer) (dryRun : Bool) (e : Email) : Routed :=
  let header := decision.rule.rewritten e.header
  let auth := decision.rule.auth
  if dryRun then ⟨.ok decision, header, auth, none⟩
  else match Email.dispatch? header e.message auth decision.rule.server with
    | .error failure => ⟨.error failure, header, auth, none⟩
    | .ok (dispatch, _) =>
      ⟨(mailer dispatch).result.map fun _ => decision, header, auth, some dispatch⟩

/-- What a decision that is carried out puts into the journal. -/
def Decision.events (decision : Decision) (mailer : Mailer) (dryRun : Bool) (e : Email) : Journal :=
  [.log ⟨.debug, some (Router.matchedText decision.rule)⟩,
    .log ⟨.debug, some (Router.tryingText (e.decided decision.rule))⟩] ++
  if dryRun then [.log ⟨.info, some "Dry run requested; not sending email"⟩]
  else match Email.dispatch? (decision.rule.rewritten e.header) e.message decision.rule.auth
      decision.rule.server with
    | .error _ => []
    | .ok (dispatch, text) =>
      [.log ⟨.debug, text⟩, .dispatch dispatch] ++ (mailer dispatch).journal

namespace Decision

variable (decision : Decision) (mailer : Mailer) (dryRun : Bool) (e : Email)

theorem header_routed :
    (decision.routed mailer dryRun e).header = decision.rule.rewritten e.header := by
  unfold routed
  dsimp only
  split
  · rfl
  · split <;> rfl

theorem auth_routed : (decision.routed mailer dryRun e).auth = decision.rule.auth := by
  unfold routed
  dsimp only
  split
  · rfl
  · split <;> rfl

variable {decision mailer dryRun e}

/-- What has been handed on is the dispatch of the message as the rule has left it. -/
theorem routed_dispatch_eq_some {x : Dispatch}
    (h : (decision.routed mailer dryRun e).dispatch = some x) :
    dryRun = false ∧ ∃ text, Email.dispatch? (decision.rule.rewritten e.header) e.message
      decision.rule.auth decision.rule.server = .ok (x, text) := by
  unfold routed at h
  dsimp only at h
  split at h
  · cases h
  · next wet =>
    split at h
    · cases h
    · next dispatch text sent =>
      cases h
      exact ⟨by simpa using wet, text, sent⟩

end Decision

namespace Router

/-- What routing a message comes to. -/
def routed (router : Router) (mailer : Mailer) (dryRun : Bool) (e : Email) : Routed :=
  match router.choose e.header with
  | .error failure => ⟨.error failure, e.header, e.auth, none⟩
  | .ok decision => decision.routed mailer dryRun e

theorem routed_of_choose_eq_error {router : Router} {e : Email} {failure : Failure}
    (h : router.choose e.header = .error failure) (mailer : Mailer) (dryRun : Bool) :
    router.routed mailer dryRun e = ⟨.error failure, e.header, e.auth, none⟩ := by
  rw [routed, h]

theorem routed_of_choose_eq_ok {router : Router} {e : Email} {decision : Decision}
    (h : router.choose e.header = .ok decision) (mailer : Mailer) (dryRun : Bool) :
    router.routed mailer dryRun e = decision.routed mailer dryRun e := by
  rw [routed, h]

/-- What has been handed on is the dispatch of the message as a rule has left it. -/
theorem routed_dispatch_eq_some {router : Router} {mailer : Mailer} {dryRun : Bool} {e : Email}
    {x : Dispatch} (h : (router.routed mailer dryRun e).dispatch = some x) :
    ∃ decision text, router.choose e.header = .ok decision ∧
      (router.routed mailer dryRun e).header = decision.rule.rewritten e.header ∧
      Email.dispatch? (decision.rule.rewritten e.header) e.message decision.rule.auth
        decision.rule.server = .ok (x, text) := by
  cases hchoose : router.choose e.header with
  | error failure =>
    rw [routed_of_choose_eq_error hchoose] at h
    cases h
  | ok decision =>
    rw [routed_of_choose_eq_ok hchoose] at h ⊢
    obtain ⟨-, text, sent⟩ := Decision.routed_dispatch_eq_some h
    exact ⟨decision, text, rfl, decision.header_routed mailer dryRun e, sent⟩

/-- The desk after a message has been routed. -/
structure RoutedAt (mailer : Mailer) (d d' : Desk) (routed : Routed) : Prop where
  header : d'.email.header = routed.header
  message : d'.email.message = d.email.message
  auth : d'.email.auth = routed.auth
  coherent : d'.email.IsCoherent
  dispatches : d'.journal.dispatches = d.journal.dispatches ++ routed.dispatch.toList ++
    routed.dispatch.toList.flatMap fun dispatch => (mailer dispatch).journal.dispatches

/-- The desk after a decision has been carried out and the message delivered. -/
structure DeliveredAt (mailer : Mailer) (dryRun : Bool) (d d' : Desk) (decision : Decision) :
    Prop where
  header : d'.email.header = decision.rule.rewritten d.email.header
  message : d'.email.message = d.email.message
  auth : d'.email.auth = decision.rule.auth
  coherent : d'.email.IsCoherent
  journal : d'.journal = d.journal ++ decision.events mailer dryRun d.email

/-- A decision that has been carried out is followed by the dispatch, unless it is a dry run. -/
theorem delivered_of_decided {router : Router} {d d₁ : Desk} {decision : Decision}
    (coherent : d.email.IsCoherent) (decided : perform router.decide d = (.ok decision, d₁))
    (after : DecidedAt d d₁ decision.rule) (mailer : Mailer) (dryRun : Bool) :
    ∃ d', perform (router.deliver mailer dryRun) d =
        ((decision.routed mailer dryRun d.email).result, d') ∧
      DeliveredAt mailer dryRun d d' decision := by
  have trying : tryingText d₁.email = tryingText (d.email.decided decision.rule) := by
    unfold tryingText Email.body
    rw [after.header, after.message]
    rfl
  unfold deliver Decision.routed
  simp only [perform_bind, decided, Work.perform_email, Work.perform_log, trying]
  cases dryRun with
  | true =>
    exact ⟨_, rfl, after.header, after.message, after.auth, after.coherent coherent,
      by simp [after.journal, Decision.events]⟩
  | false =>
    -- the desk at which the message is sent has the record of the attempt on it already
    obtain ⟨d₂, refreshed, hsend⟩ :=
      Work.perform_send mailer decision.rule.server (d := ⟨d₁.email, d₁.journal ++
        [.log ⟨.debug, some (tryingText (d.email.decided decision.rule))⟩]⟩)
        (after.coherent coherent)
    have hjournal := refreshed.journal
    simp only [after.header, after.message, after.auth] at hsend
    simp only [Bool.false_eq_true, if_false, perform_bind, hsend]
    cases sent : Email.dispatch? (decision.rule.rewritten d.email.header) d.email.message
        decision.rule.auth decision.rule.server with
    | error failure =>
      refine ⟨d₂, rfl, refreshed.header.trans after.header, refreshed.message.trans after.message,
        refreshed.auth.trans after.auth, refreshed.coherent (after.coherent coherent), ?_⟩
      rw [hjournal, after.journal]
      simp [Decision.events, sent]
    | ok sent' =>
      obtain ⟨dispatch, text⟩ := sent'
      refine ⟨⟨d₂.email, d₂.journal ++ [.log ⟨.debug, text⟩, .dispatch dispatch] ++
        (mailer dispatch).journal⟩, ?_, refreshed.header.trans after.header,
        refreshed.message.trans after.message, refreshed.auth.trans after.auth,
        refreshed.coherent (after.coherent coherent), ?_⟩
      · simp only
        cases (mailer dispatch).result <;> rfl
      · simp [hjournal, after.journal, Decision.events, sent]

theorem DeliveredAt.routedAt {mailer : Mailer} {dryRun : Bool} {d d' : Desk} {decision : Decision}
    (after : DeliveredAt mailer dryRun d d' decision) :
    RoutedAt mailer d d' (decision.routed mailer dryRun d.email) where
  header := after.header.trans (decision.header_routed mailer dryRun d.email).symm
  message := after.message
  auth := after.auth.trans (decision.auth_routed mailer dryRun d.email).symm
  coherent := after.coherent
  dispatches := by
    rw [after.journal]
    unfold Decision.events Decision.routed
    dsimp only
    cases dryRun with
    | true => simp [Journal.dispatches]
    | false =>
      cases Email.dispatch? (decision.rule.rewritten d.email.header) d.email.message
          decision.rule.auth decision.rule.server with
      | error failure => simp [Journal.dispatches]
      | ok sent => simp [Journal.dispatches]

theorem perform_deliver_of_decided {router : Router} {d d₁ : Desk} {decision : Decision}
    (coherent : d.email.IsCoherent) (decided : perform router.decide d = (.ok decision, d₁))
    (after : DecidedAt d d₁ decision.rule) (mailer : Mailer) (dryRun : Bool) :
    ∃ d', perform (router.deliver mailer dryRun) d =
        ((decision.routed mailer dryRun d.email).result, d') ∧
      RoutedAt mailer d d' (decision.routed mailer dryRun d.email) := by
  obtain ⟨d', hdeliver, delivered⟩ := delivered_of_decided coherent decided after mailer dryRun
  exact ⟨d', hdeliver, delivered.routedAt⟩

/-- **Delivering is routing**: the result, the message and the dispatches are those that the
header, the body and the credentials determine, whatever views have been kept. -/
theorem perform_deliver (router : Router) (mailer : Mailer) (dryRun : Bool) {d : Desk}
    (coherent : d.email.IsCoherent) (writable : d.email.header.isReadOnly = false) :
    ∃ d', perform (router.deliver mailer dryRun) d =
        ((router.routed mailer dryRun d.email).result, d') ∧
      RoutedAt mailer d d' (router.routed mailer dryRun d.email) := by
  obtain ⟨d₁, hdecide, after⟩ := router.perform_decide coherent writable
  cases hchoose : router.choose d.email.header with
  | error failure =>
    rw [hchoose] at hdecide after
    rw [routed_of_choose_eq_error hchoose]
    exact ⟨d₁, perform_bind_error hdecide, after.header, after.message, after.auth,
      after.coherent coherent, by simp [after.journal]⟩
  | ok decision =>
    rw [hchoose] at hdecide after
    rw [routed_of_choose_eq_ok hchoose]
    exact perform_deliver_of_decided coherent hdecide after mailer dryRun

end Router

end Mailroom
