import Mathlib.Control.Monad.Basic
import Mailroom.Proofs.Message.Reachable
import Mailroom.Proofs.Message.View

/-!
# The first rule that accepts decides

* `Rule.verdict_eq_ok_true_iff`: a rule accepts if it has matchers and all of them do;
* `Rule.verdict_eq_error`: a rule that cannot tell breaks down, and gives no report;
* `Router.chooseFrom_eq_error`: if no rule accepts there is no route;
* `Router.Decides`: what is true of a decision that has been made at a desk;
* `Email.Reachable.first_match`: every decision is of this kind, a failure leaves the header and
  the credentials alone, and what is handed on goes where the deciding rule says.
-/

namespace Mailroom

/-! ### Verdicts that fail -/

namespace Email

theorem canonicalField_eq_error {h : Header} {field : Text} {failure : Failure}
    (e : canonicalField h field = .error failure) : ∃ cause, failure = .breakdown cause := by
  cases parses : h.addresses field with
  | error cause =>
    unfold canonicalField at e
    rw [parses] at e
    split at e
    · cases cause <;> cases e
      exact ⟨_, rfl⟩
    · cases e
  | ok addresses =>
    rw [canonicalField_of_parses parses] at e
    split at e
    · cases e
    · split at e <;> cases e
      exact ⟨_, rfl⟩

/-- If there is no view, an address field without a canonical form is why. -/
theorem exists_canonicalField_eq_error {h : Header} {failure : Failure}
    (e : reconcile h = .error failure) :
    ∃ field ∈ shownFields, canonicalField h field = .error failure := by
  have fields := map_fields_reconcile h
  rw [e] at fields
  rcases bind_eq_error_iff.1 fields.symm with hs | ⟨sender, -, fields⟩
  · exact ⟨_, by decide, hs⟩
  rcases bind_eq_error_iff.1 fields with ht | ⟨primary, -, fields⟩
  · exact ⟨_, by decide, ht⟩
  rcases bind_eq_error_iff.1 fields with hc | ⟨cc, -, fields⟩
  · exact ⟨_, by decide, hc⟩
  · cases fields

theorem reconcile_eq_error {h : Header} {failure : Failure} (e : reconcile h = .error failure) :
    ∃ cause, failure = .breakdown cause := by
  obtain ⟨field, -, unshown⟩ := exists_canonicalField_eq_error e
  exact canonicalField_eq_error unshown

end Email

theorem Condition.valueIn_eq_error {c : Condition} {view : Header} {failure : Failure}
    (e : c.valueIn view = .error failure) : ∃ cause, failure = .breakdown cause := by
  unfold valueIn at e
  split at e
  · cases e
  · split at e <;> cases e
    exact ⟨_, rfl⟩

/-- A matcher that cannot tell breaks down. -/
theorem Matcher.verdict_eq_error {m : Matcher} {h : Header} {failure : Mailroom.Failure}
    (e : m.verdict h = .error failure) : ∃ cause, failure = .breakdown cause := by
  cases m with
  | everything => cases e
  | field c =>
    unfold verdict at e
    cases hview : Email.reconcile h with
    | error _ =>
      rw [hview] at e
      cases e
      exact Email.reconcile_eq_error hview
    | ok view =>
      rw [hview] at e
      change (c.valueIn view >>= _) = _ at e
      rcases hvalue : c.valueIn view with failure | _ | value
      · rw [hvalue] at e
        cases e
        exact Condition.valueIn_eq_error hvalue
      · rw [hvalue] at e
        cases e
      · rw [hvalue] at e
        change (c.accepts value).mapError _ = _ at e
        cases haccepts : c.accepts value <;> rw [haccepts] at e <;> cases e
        exact ⟨_, rfl⟩

namespace Rule

theorem allVerdict_eq_error {h : Header} {ms : List Matcher} {failure : Failure}
    (e : allVerdict h ms = .error failure) : ∃ cause, failure = .breakdown cause := by
  induction ms with
  | nil => cases e
  | cons m ms ih =>
    unfold allVerdict at e
    rcases hm : m.verdict h with failure | _ | _ <;> rw [hm] at e
    · cases e
      exact Matcher.verdict_eq_error hm
    · cases e
    · exact ih e

/-- A rule that cannot tell breaks down. -/
theorem verdict_eq_error {r : Rule} {h : Header} {failure : Failure}
    (e : r.verdict h = .error failure) : ∃ cause, failure = .breakdown cause := by
  unfold verdict at e
  split at e
  · cases e
  · exact allVerdict_eq_error e

theorem allVerdict_eq_ok_true_iff {h : Header} {ms : List Matcher} :
    allVerdict h ms = .ok true ↔ ∀ m ∈ ms, m.verdict h = .ok true := by
  induction ms with
  | nil => simp [allVerdict]
  | cons m ms ih =>
    unfold allVerdict
    rw [List.forall_mem_cons, ← ih]
    rcases m.verdict h with failure | _ | _ <;> simp [bind, Except.bind]

/-- A rule accepts a message if it has matchers and all of them do. -/
theorem verdict_eq_ok_true_iff {r : Rule} {h : Header} :
    r.verdict h = .ok true ↔ r.matchers ≠ [] ∧ ∀ m ∈ r.matchers, m.verdict h = .ok true := by
  unfold verdict
  rw [← allVerdict_eq_ok_true_iff]
  cases hr : r.matchers <;> simp

end Rule

/-! ### The rule that decides -/

namespace Router

/-- If no rule decides, one cannot tell, or none accepts the message. -/
theorem chooseFrom_eq_error {h : Header} {rules : List Rule} {position : Nat} {failure : Failure}
    (e : chooseFrom position h rules = .error failure) :
    (∃ cause, failure = .breakdown cause) ∨
      failure = .noRoute ∧ ∀ r ∈ rules, r.verdict h = .ok false := by
  induction rules generalizing position with
  | nil =>
    cases e
    exact .inr ⟨rfl, fun _ hmem => by cases hmem⟩
  | cons r rules ih =>
    unfold chooseFrom at e
    rcases hr : r.verdict h with failure | _ | _ <;> rw [hr] at e
    · cases e
      exact .inl (Rule.verdict_eq_error hr)
    · rcases ih e with broke | ⟨rfl, none_accepts⟩
      · exact .inl broke
      · exact .inr ⟨rfl, List.forall_mem_cons.2 ⟨hr, none_accepts⟩⟩
    · cases e

/-- The rules after one that accepts make no difference. -/
theorem perform_decideFrom_append {before : List Rule} {r : Rule} (after after' : List Rule)
    (position : Nat) {d : Desk} (coherent : d.email.IsCoherent)
    (accepts : r.verdict d.email.header = .ok true)
    (earlier : ∀ r ∈ before, r.verdict d.email.header = .ok false) :
    perform (decideFrom position (before ++ r :: after)) d =
      perform (decideFrom position (before ++ r :: after')) d := by
  induction before generalizing position d with
  | nil =>
    obtain ⟨d₁, haccepts, -⟩ := r.perform_accepts coherent
    rw [accepts] at haccepts
    simp only [List.nil_append, decideFrom, perform_bind_ok haccepts, if_true]
  | cons b before ih =>
    rw [List.forall_mem_cons] at earlier
    obtain ⟨d₁, haccepts, refreshed⟩ := b.perform_accepts coherent
    rw [earlier.1] at haccepts
    simp only [List.cons_append, decideFrom, perform_bind_ok haccepts, Bool.false_eq_true,
      if_false]
    exact ih (position + 1) (refreshed.coherent coherent) (by rw [refreshed.header]; exact accepts)
      (by rw [refreshed.header]; exact earlier.2)

/-- What is true of a decision that has been made at a desk: its rule has matchers, which accept
the message as it came in, and no rule before it accepts the message so; its actions alone have
rewritten the header, the credentials are its own, and the rules after it make no difference. -/
structure Decides (router : Router) (d d' : Desk) (decision : Decision) : Prop where
  rule : router.rules[decision.position]? = some decision.rule
  matchers : decision.rule.matchers ≠ []
  accepts : ∀ m ∈ decision.rule.matchers, (perform m.accepts d).1 = .ok true
  earlier : ∀ r ∈ router.rules.take decision.position, (perform r.accepts d).1 = .ok false
  applied : (perform decision.rule.apply d).1 = .ok ()
  header : d'.email.header = (perform decision.rule.apply d).2.email.header
  message : d'.email.message = d.email.message
  auth : d'.email.auth = decision.rule.auth
  later : ∀ router' : Router,
    router'.rules.take (decision.position + 1) = router.rules.take (decision.position + 1) →
    perform router'.decide d = perform router.decide d ∧
      ∀ (mailer : Mailer) (dryRun : Bool),
        perform (router'.deliver mailer dryRun) d = perform (router.deliver mailer dryRun) d

/-- The rules of another router that has the same ones up to the rule that decides. -/
theorem rules_eq_append {rules rules' before after : List Rule} {r : Rule}
    (split : rules = before ++ r :: after)
    (same : rules'.take (before.length + 1) = rules.take (before.length + 1)) :
    ∃ after', rules' = before ++ r :: after' := by
  refine ⟨rules'.drop (before.length + 1), ?_⟩
  have : rules.take (before.length + 1) = before ++ [r] := by
    rw [split, List.take_append, List.take_of_length_le (Nat.le_succ _)]
    simp
  rw [← List.take_append_drop (before.length + 1) rules', same, this]
  simp

/-- A decision that has been made is that for the header, and it has been carried out. -/
theorem decidedAt_of_perform {router : Router} {d : Desk} (coherent : d.email.IsCoherent)
    {decision : Decision} (hdecide : (perform router.decide d).1 = .ok decision) :
    router.choose d.email.header = .ok decision ∧
      decision.rule.CanApply d.email.header ∧
      DecidedAt d (perform router.decide d).2 decision.rule := by
  have comes := router.comes_decide coherent
  rw [hdecide] at comes
  generalize router.choose d.email.header = chosen at comes
  cases comes with
  | decided can after => exact ⟨rfl, can, after⟩

theorem decides_of_perform {router : Router} {d : Desk} (coherent : d.email.IsCoherent)
    {decision : Decision} (hdecide : (perform router.decide d).1 = .ok decision) :
    router.Decides d (perform router.decide d).2 decision := by
  obtain ⟨chosen, can, after⟩ := decidedAt_of_perform coherent hdecide
  obtain ⟨before, rest, split, hposition, accepts, earlier⟩ := chooseFrom_eq_ok chosen
  rw [Nat.zero_add] at hposition
  obtain ⟨some_matcher, all⟩ := Rule.verdict_eq_ok_true_iff.1 accepts
  have applied := Rule.perform_apply_of_canApply can
  refine ⟨?_, some_matcher, fun m hm => ?_, fun r hr => ?_, by rw [applied], ?_, after.message,
    after.auth, fun router' same => ?_⟩
  · simp [split, hposition]
  · rw [m.fst_perform_accepts coherent]
    exact all m hm
  · rw [split, hposition, List.take_left] at hr
    rw [r.fst_perform_accepts coherent, earlier r hr]
  · rw [after.header, applied]
  · rw [hposition] at same
    obtain ⟨rest', split'⟩ := rules_eq_append split same
    have same_decision : perform router'.decide d = perform router.decide d := by
      unfold decide
      rw [split, split']
      exact perform_decideFrom_append rest' rest 0 coherent accepts earlier
    refine ⟨same_decision, fun mailer dryRun => ?_⟩
    unfold deliver
    rw [perform_bind, perform_bind, same_decision]

/-- Without a decision, nothing is different but the log and the kept view. -/
theorem unchanged_of_perform {router : Router} {d : Desk} (coherent : d.email.IsCoherent)
    {failure : Failure} (hdecide : (perform router.decide d).1 = .error failure) :
    let d' := (perform router.decide d).2
    d'.email.header = d.email.header ∧ d'.email.auth = d.email.auth ∧
      d'.journal.dispatches = d.journal.dispatches ∧
      (failure.reportKind? = some .routing →
        ∀ r ∈ router.rules, (perform r.accepts d).1 = .ok false) := by
  intro d'
  have comes := router.comes_decide coherent
  rw [hdecide] at comes
  generalize hchoose : router.choose d.email.header = chosen at comes
  cases comes with
  | undecided failure after =>
    refine ⟨after.header, after.auth, by rw [after.journal], fun routing r hr => ?_⟩
    rcases chooseFrom_eq_error hchoose with ⟨cause, rfl⟩ | ⟨-, none_accepts⟩
    · cases routing
    · rw [r.fst_perform_accepts coherent]
      exact none_accepts r hr
  | refused cannot after =>
    exact ⟨after.header, after.auth, (congrArg Journal.dispatches after.journal).trans
      (by simp [Journal.dispatches]), fun routing => by cases routing⟩

end Router

/-- **The first rule that accepts a message decides, and nothing else comes of the rules.** What is
decided is so for the message as it came in. If there is no decision, the header and the
credentials are as they were, and a report that there is no route means that no rule accepts the
message. A message is handed on at most once, not in a dry run and not without a decision, and to
the server and with the credentials of the rule that decides. -/
theorem Email.Reachable.first_match {e : Email} (reached : e.Reachable) (router : Router)
    (journal : Journal) :
    let d : Desk := ⟨e, journal⟩
    let decided := perform router.decide d
    (∀ decision, decided.1 = .ok decision → router.Decides d decided.2 decision) ∧
      (∀ failure, decided.1 = .error failure →
        decided.2.email.header = e.header ∧ decided.2.email.auth = e.auth ∧
          (failure.reportKind? = some .routing →
            ∀ r ∈ router.rules, (perform r.accepts d).1 = .ok false)) ∧
      ∀ (mailer : Mailer) (dryRun : Bool), ∃ handed : Option Dispatch,
        (perform (router.deliver mailer dryRun) d).2.journal.dispatches =
            journal.dispatches ++ handed.toList ++
              handed.toList.flatMap (fun x => (mailer x).journal.dispatches) ∧
          ∀ x, handed = some x → dryRun = false ∧ ∃ decision, decided.1 = .ok decision ∧
            x.host = decision.rule.server ∧ x.auth = decision.rule.auth := by
  intro d decided
  have coherent : d.email.IsCoherent := reached.isCoherent
  refine ⟨fun decision => router.decides_of_perform coherent, fun failure hdecide => ?_,
    fun mailer dryRun => ?_⟩
  · obtain ⟨header, auth, -, unrouted⟩ := router.unchanged_of_perform coherent hdecide
    exact ⟨header, auth, unrouted⟩
  · cases hdecide : decided.1 with
    | error failure =>
      -- there is nothing to hand on, and what comes after the decision is not reached
      obtain ⟨-, -, dispatches, -⟩ := router.unchanged_of_perform coherent hdecide
      have hdeliver : perform (router.deliver mailer dryRun) d = (.error failure, decided.2) :=
        perform_bind_error (Prod.ext hdecide rfl)
      refine ⟨none, ?_, fun x hx => by cases hx⟩
      rw [hdeliver]
      simpa using dispatches
    | ok decision =>
      obtain ⟨-, -, after⟩ := router.decidedAt_of_perform coherent hdecide
      obtain ⟨d', hdeliver, routed⟩ := Router.perform_deliver_of_decided coherent
        (Prod.ext hdecide rfl) after mailer dryRun
      refine ⟨(decision.routed mailer dryRun e).dispatch, ?_, fun x hx => ?_⟩
      · rw [hdeliver]
        exact routed.dispatches
      · obtain ⟨wet, text, sent⟩ := Decision.routed_dispatch_eq_some hx
        obtain ⟨sender, recipients, -, -, whole⟩ := Email.dispatch?_eq_ok sent
        exact ⟨wet, decision, rfl, by rw [whole], by rw [whole]⟩

/-- A router that has a place for one sender and another for everybody else. -/
def Router.sorting : Router :=
  ⟨⟨"boss", [.field ⟨"from", "boss@example.org", none⟩], [], none, "first"⟩,
    [⟨"rest", [.everything], [⟨"X-Sender", "\x7b\x7bfrom\x7d\x7d"⟩], none, "second"⟩]⟩

/-- A message of somebody else goes to the second place. -/
theorem Router.sorting_first_match :
    let d : Desk := ⟨.ofParts ⟨[⟨"From", "a@b.c", []⟩, ⟨"To", "x@y.org", []⟩], false, 2⟩ [], []⟩
    let rest : Decision :=
      ⟨⟨"rest", [.everything], [⟨"X-Sender", "\x7b\x7bfrom\x7d\x7d"⟩], none, "second"⟩, 1⟩
    (perform sorting.decide d).1 = .ok rest ∧
      sorting.Decides d (perform sorting.decide d).2 rest := by
  intro d rest
  have hdecide : (perform sorting.decide d).1 = .ok rest := by decide +kernel
  exact ⟨hdecide, ((Email.Reachable.start _ _).first_match sorting []).1 rest hdecide⟩

end Mailroom
