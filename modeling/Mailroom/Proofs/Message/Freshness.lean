import Mathlib.Control.Monad.Basic
import Mailroom.Proofs.Command.Steps
import Mailroom.Proofs.Header.History
import Mailroom.Proofs.Message.Reachable
import Mailroom.Proofs.Message.View

/-!
# The kept view

* `Header.Becomes`: what may happen to a header, which is that it is changed and closed. Each change
  has been counted, and fields stay keyed;
* `Email.Operation.writes`: how many changes of the header are made in an operation;
  `Operation.becomes_perform` says that the header becomes another one in that many;
* `Desk.after`, `Desk.writes`: the same of any number of operations, one after another;
* `Email.Built.view_after`: the view that is shown is always the view of the header as it is, and
  it is built once for as long as no change is made.
-/

namespace Mailroom

/-! ### Changes of a header -/

namespace Header

/-- A header has become another one in a number of changes that count. That it has been closed is
none of them. -/
inductive Becomes : Header → Nat → Header → Prop where
  | same (h : Header) : Becomes h 0 h
  | closed (h : Header) : Becomes h 0 h.freeze
  | change {c : Change} {h h' : Header} (changed : Changed c h h') :
      Becomes h (if c.counts (valuesOf h.fields c.key) then 1 else 0) h'
  | trans {h h' h'' : Header} {m n : Nat} (before : Becomes h m h') (after : Becomes h' n h'') :
      Becomes h (m + n) h''

namespace Becomes

variable {h h' : Header} {n : Nat}

/-- **A header counts the changes that are made.** -/
theorem revision (becomes : h.Becomes n h') : h'.revision = h.revision + n := by
  induction becomes with
  | same | closed => rfl
  | change changed => exact changed.revision
  | trans _ _ before after => rw [after, before, Nat.add_assoc]

/-- **Fields stay keyed**, whatever is changed. -/
theorem isKeyed (becomes : h.Becomes n h') (keyed : IsKeyed h.fields) : IsKeyed h'.fields := by
  induction becomes with
  | same | closed => exact keyed
  | change changed => exact changed.keyed keyed
  | trans _ _ before after => exact after (before keyed)

end Becomes

theorem becomes_changeHeader (c : Change) {d : Desk} (writable : d.email.header.isReadOnly = false) :
    d.email.header.Becomes (if c.counts (valuesOf d.email.header.fields c.key) then 1 else 0)
      (perform (Work.changeHeader c.apply) d).2.email.header := by
  obtain ⟨h', applied, changed⟩ := exists_changed c writable
  rw [Work.perform_changeHeader, applied]
  exact .change changed

/-- Every action is a change that counts. -/
theorem becomes_rewritten (actions : List Action) {h : Header} (writable : h.isReadOnly = false) :
    h.Becomes actions.length (actions.foldl Action.rewritten h) := by
  induction actions generalizing h with
  | nil => exact .same h
  | cons a actions ih =>
    obtain ⟨h', applied, changed⟩ :=
      exists_changed (.set a.field (Template.render h.first a.template)) writable
    obtain rfl : h' = Action.rewritten h a := by
      have := applied.symm.trans (set_eq_ok writable _ _)
      exact Except.ok.inj this
    rw [List.length_cons, Nat.add_comm]
    exact .trans (.change changed) (ih changed.writable)

end Header

namespace Email

open Header

/-! ### Operations on a message -/

/-- How many changes of the header are made in an operation on a message: the values put in and
the fields taken away, but not what is refused or finds nothing to take away. -/
def Operation.writes (e : Email) (operation : Operation) : Nat :=
  if e.header.isReadOnly then 0
  else match operation with
    | setSender value => if (Address.parse value).isOk then 1 else 0
    | setRecipients value => if (AddressList.parse value).isOk then 1 else 0
    | setHeader _ _ | addHeader _ _ => 1
    | deleteHeader field => if e.header.contains field then 1 else 0
    | apply rule => rule.actions.length
    | deliver router _ _ =>
      match router.choose e.header with
      | .ok decision => decision.rule.actions.length
      | .error _ => 0
    | freezeHeader | setAuth _ | view | accept _ | send _ _ => 0

/-- **An operation does nothing to a header but change fields and close it**, and makes as many
changes as are said of it. -/
theorem Operation.becomes_perform (operation : Operation) {d : Desk}
    (coherent : d.email.IsCoherent) :
    d.email.header.Becomes (operation.writes d.email)
      (perform operation.work d).2.email.header := by
  unfold writes
  cases writable : d.email.header.isReadOnly with
  | true =>
    rw [(isFollowed_work operation d).closed writable]
    exact .same _
  | false =>
    simp only [Bool.false_eq_true, if_false]
    -- the work of an operation that sets a field is that change, behind what may be refused
    have set (field value : Text) := becomes_changeHeader (.set field value) writable
    cases operation with
    | setSender value =>
      simp only [work, Work.setSender, Work.perform_setRead]
      cases Address.parse value with
      | error failure => exact .same _
      | ok address => exact set _ _
    | setRecipients value =>
      simp only [work, Work.setRecipients, Work.perform_setRead]
      cases AddressList.parse value with
      | error failure => exact .same _
      | ok addresses => exact set _ _
    | setHeader field value => exact set field value
    | addHeader field value => exact becomes_changeHeader (.add field value) writable
    | deleteHeader field =>
      have there : d.email.header.contains field =
          (Change.delete field).counts
            (valuesOf d.email.header.fields (FieldName.canonical field)) := by
        rw [Bool.eq_iff_iff, contains_iff_valuesOf_ne_nil]
        simp [Change.counts]
      show Becomes _ (if d.email.header.contains field then 1 else 0) _
      rw [there]
      exact becomes_changeHeader (.delete field) writable
    | freezeHeader => exact .closed _
    | setAuth auth => exact .same _
    | view =>
      obtain ⟨d', hview, refreshed⟩ := Work.perform_view coherent
      rw [work, snd_perform_bind_pure, hview, refreshed.header]
      exact .same _
    | accept rule =>
      obtain ⟨d', haccepts, refreshed⟩ := rule.perform_accepts coherent
      rw [work, snd_perform_bind_pure, haccepts, refreshed.header]
      exact .same _
    | apply rule =>
      rw [work, rule.perform_apply writable]
      exact becomes_rewritten rule.actions writable
    | deliver router mailer dryRun =>
      obtain ⟨d', hdeliver, after⟩ := router.perform_deliver mailer dryRun coherent writable
      rw [work, snd_perform_bind_pure, hdeliver, after.header]
      cases hchoose : router.choose d.email.header with
      | error failure =>
        simp only [Router.routed_of_choose_eq_error hchoose, hchoose]
        exact .same _
      | ok decision =>
        simp only [Router.routed_of_choose_eq_ok hchoose, decision.header_routed, hchoose]
        exact becomes_rewritten decision.rule.actions writable
    | send mailer host =>
      obtain ⟨d', refreshed, hsend⟩ := Work.perform_send mailer host coherent
      rw [work, hsend]
      show Becomes _ 0 _
      split <;> simp only [refreshed.header] <;> exact .same _

/-- The messages that are built: of a header and a body, or of the octets of a text. -/
inductive Built : Email → Prop where
  | ofParts (header : Header) (message : Octets) : Built (ofParts header message)
  | read {ignoreDots : Bool} {data : Octets} {e : Email} (h : read ignoreDots data = .ok e) :
      Built e

theorem Built.kept_eq_none {e : Email} (built : e.Built) : e.kept = none := by
  cases built with
  | ofParts header message => rfl
  | read h =>
    obtain ⟨_, _, _, _, rfl, _⟩ := read_eq_ok h
    rfl

end Email

namespace Desk

open Email

/-- The desk after some operations, whatever comes of each. -/
def after (d : Desk) (operations : List Operation) : Desk :=
  operations.foldl (fun d operation => (perform operation.work d).2) d

/-- How many changes of the header are made in some operations. -/
def writes (d : Desk) : List Operation → Nat
  | [] => 0
  | operation :: operations =>
    operation.writes d.email + writes (perform operation.work d).2 operations

theorem follows_after (d : Desk) (operations : List Operation) :
    d.Follows (d.after operations) := by
  induction operations generalizing d with
  | nil => exact .refl d
  | cons operation operations ih => exact (isFollowed_work operation d).trans (ih _)

/-- Operations come to as many changes of the header as are made in each of them. -/
theorem becomes_after {d : Desk} (coherent : d.email.IsCoherent) (operations : List Operation) :
    d.email.header.Becomes (d.writes operations) (d.after operations).email.header := by
  induction operations generalizing d with
  | nil => exact .same _
  | cons operation operations ih =>
    exact .trans (operation.becomes_perform coherent)
      (ih ((isFollowed_work operation d).coherent coherent))

/-- A view that is fresh stays fresh for as long as no change is made. -/
theorem fresh?_after {d : Desk} (coherent : d.email.IsCoherent) {view : Header}
    (fresh : d.email.fresh? = some view) {operations : List Operation}
    (unwritten : d.writes operations = 0) : (d.after operations).email.fresh? = some view :=
  (d.follows_after operations).fresh
    (by rw [(becomes_after coherent operations).revision, unwritten, Nat.add_zero]) view fresh

end Desk

namespace Email

/-- A view is closed to changes. -/
theorem isReadOnly_reconcile {h view : Header} (shows : reconcile h = .ok view) :
    view.isReadOnly = true := by
  obtain ⟨bare, -, shows⟩ := bind_eq_ok_iff.1 shows
  obtain ⟨open', -, shows⟩ := bind_eq_ok_iff.1 shows
  cases shows
  rfl

/-- A view that has been looked at is fresh. -/
theorem fresh?_perform_view {d : Desk} (coherent : d.email.IsCoherent) {view : Header}
    (shows : reconcile d.email.header = .ok view) :
    (perform Work.view d).2.email.fresh? = some view := by
  cases fresh : d.email.fresh? with
  | some header =>
    have := coherent.fresh?_eq_some fresh
    rw [shows] at this
    cases this
    rw [Work.perform_view_of_fresh fresh]
    exact fresh
  | none =>
    unfold Work.view
    rw [perform_bind_ok (Work.perform_email d), fresh, perform_bind, Work.perform_ofExcept, shows]
    exact if_pos rfl

/-- **The view that is shown is never stale.** After any operations on a message that has been
built, a look at its view shows the view of the header as it is then, or fails as that does. The
view is closed to changes, and it stays the one that is shown, and is not built again, in all
further operations that make no change of the header. -/
theorem Built.view_after {e : Email} (built : e.Built) (journal : Journal)
    (operations : List Operation) :
    let d := Desk.after ⟨e, journal⟩ operations
    let looked := perform Work.view d
    looked.1 = reconcile d.email.header ∧
      ∀ view, looked.1 = .ok view → view.isReadOnly = true ∧
        ∀ more, looked.2.writes more = 0 →
          (looked.2.after more).email.fresh? = some view ∧
            perform Work.view (looked.2.after more) = (.ok view, looked.2.after more) := by
  intro d looked
  have coherent : d.email.IsCoherent :=
    (Desk.follows_after _ _).coherent (isCoherent_of_kept_eq_none built.kept_eq_none)
  obtain ⟨d', hview, refreshed⟩ := Work.perform_view coherent
  have shown : looked.1 = reconcile d.email.header := by rw [show looked = _ from hview]
  refine ⟨shown, fun view hlooked => ?_⟩
  have shows := shown.symm.trans hlooked
  refine ⟨isReadOnly_reconcile shows, fun more unwritten => ?_⟩
  have fresh := Desk.fresh?_after ((Work.isFollowed_view d).coherent coherent)
    (fresh?_perform_view coherent shows) unwritten
  exact ⟨fresh, Work.perform_view_of_fresh fresh⟩

/-- A message without recipients that anybody may see. -/
def drafted : Email :=
  .ofParts ⟨[⟨"From", "Ann <ann@example.org>", []⟩, ⟨"Bcc", "x@y.org", []⟩], false, 2⟩ []

/-- Once it has recipients and has been looked at, its view stays, although a field that is not
there is taken away, the header is closed and a change of it is refused. -/
theorem drafted_view_after :
    let d := Desk.after ⟨drafted, []⟩ [.setRecipients "b@c.d", .setSender "nobody"]
    let shown : Header :=
      ⟨[⟨"From", "\"Ann\" <ann@example.org>", []⟩, ⟨"To", "<b@c.d>", []⟩], true, 5⟩
    let more : List Operation := [.deleteHeader "Cc", .freezeHeader, .setHeader "To" "x@y.org"]
    (perform Work.view d).1 = .ok shown ∧ (perform Work.view d).2.writes more = 0 ∧
      ((perform Work.view d).2.after more).email.fresh? = some shown := by
  intro d shown more
  have looked : (perform Work.view d).1 = .ok shown := by decide +kernel
  have unwritten : (perform Work.view d).2.writes more = 0 := by decide +kernel
  have after := Built.view_after (.ofParts _ _ : drafted.Built) []
    [.setRecipients "b@c.d", .setSender "nobody"]
  exact ⟨looked, unwritten, ((after.2 shown looked).2 more unwritten).1⟩

end Email

end Mailroom
