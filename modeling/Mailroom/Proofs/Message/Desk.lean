import Mailroom.Message.Send
import Mailroom.Proofs.Perform

/-!
# Work at a desk

* `perform_change`, `perform_note`, …: what each step at a desk does;
* `Email.IsCoherent`: a kept view that passes for fresh is the view of the header;
* `Desk.Refreshed`: nothing is different but the kept view;
* `Work.perform_view`: looking at the view gives the view of the header and nothing else.
-/

namespace Mailroom

namespace Work

variable {α : Type}

@[simp] theorem perform_email (d : Desk) : perform email d = (.ok d.email, d) := by
  unfold email
  rw [perform_bind_ok (perform_get d)]
  rfl

@[simp] theorem perform_note (event : Event) (d : Desk) :
    perform (note event) d = (.ok (), { d with journal := d.journal ++ [event] }) := rfl

@[simp] theorem perform_log (level : Level) (text : Option Text) (d : Desk) :
    perform (log level text) d =
      (.ok (), { d with journal := d.journal ++ [.log ⟨level, text⟩] }) := rfl

@[simp] theorem perform_change (f : Email → Email) (d : Desk) :
    perform (change f) d = (.ok (), { d with email := f d.email }) := rfl

@[simp] theorem perform_ofExcept (x : Except Failure α) (d : Desk) :
    perform (ofExcept x) d = (x, d) := by
  cases x <;> rfl

/-- A change of the header leaves all else at the desk alone; one that is refused leaves the
header alone as well. -/
theorem perform_changeHeader (f : Header → Except HeaderFault Header) (d : Desk) :
    perform (changeHeader f) d = match f d.email.header with
      | .ok header => (.ok (), { d with email := { d.email with header := header } })
      | .error fault => (.error (.header fault), d) := by
  unfold changeHeader
  rw [perform_bind_ok (perform_email d), perform_bind, perform_ofExcept]
  cases f d.email.header <;> rfl

end Work

namespace Email

/-- A kept view is no newer than the header, and if it is as new it is the view of the header. -/
def IsCoherent (e : Email) : Prop :=
  ∀ view, e.kept = some view → view.revision ≤ e.header.revision ∧
    (view.revision = e.header.revision → reconcile e.header = .ok view.header)

variable {e : Email}

theorem isCoherent_of_kept_eq_none (h : e.kept = none) : e.IsCoherent := by
  intro view hv
  rw [h] at hv
  cases hv

/-- A change of the header that is counted makes every kept view stale. -/
theorem IsCoherent.of_newer (he : e.IsCoherent) {header : Header}
    (newer : e.header.revision < header.revision) : { e with header := header }.IsCoherent := by
  intro view hv
  have := (he view hv).1
  refine ⟨by show view.revision ≤ header.revision; omega, fun same => ?_⟩
  have : view.revision = header.revision := same
  omega

theorem IsCoherent.fresh?_eq_some (he : e.IsCoherent) {header : Header}
    (h : e.fresh? = some header) : reconcile e.header = .ok header := by
  unfold fresh? at h
  cases hk : e.kept with
  | none => rw [hk] at h; cases h
  | some view =>
    simp only [hk] at h
    split at h
    · next same =>
      cases h
      exact (he view hk).2 same
    · cases h

/-- A view depends on the fields of the header alone. -/
theorem reconcile_congr {h k : Header} (same : h.fields = k.fields) :
    reconcile h = reconcile k := by
  obtain ⟨fields, _, _⟩ := h
  obtain ⟨_, _, _⟩ := k
  cases same
  rfl

end Email

/-- Nothing is different but the view that is kept. -/
structure Desk.Refreshed (d d' : Desk) : Prop where
  journal : d'.journal = d.journal
  header : d'.email.header = d.email.header
  message : d'.email.message = d.email.message
  auth : d'.email.auth = d.email.auth
  coherent : d.email.IsCoherent → d'.email.IsCoherent

namespace Desk.Refreshed

variable {d d' d'' : Desk}

theorem refl (d : Desk) : d.Refreshed d := ⟨rfl, rfl, rfl, rfl, id⟩

theorem trans (h : d.Refreshed d') (h' : d'.Refreshed d'') : d.Refreshed d'' where
  journal := h'.journal.trans h.journal
  header := h'.header.trans h.header
  message := h'.message.trans h.message
  auth := h'.auth.trans h.auth
  coherent := h'.coherent ∘ h.coherent

end Desk.Refreshed

namespace Work

/-- Looking at the view gives the view of the header, whether or not one was kept. -/
theorem perform_view {d : Desk} (coherent : d.email.IsCoherent) :
    ∃ d', perform view d = (Email.reconcile d.email.header, d') ∧ d.Refreshed d' := by
  unfold view
  rw [perform_bind_ok (perform_email d)]
  cases fresh : d.email.fresh? with
  | some header =>
    refine ⟨d, ?_, .refl d⟩
    rw [coherent.fresh?_eq_some fresh]
    rfl
  | none =>
    show ∃ d', perform (ofExcept (Email.reconcile d.email.header) >>= _) d = _ ∧ _
    rw [perform_bind, perform_ofExcept]
    cases shown : Email.reconcile d.email.header with
    | error failure => exact ⟨d, rfl, .refl d⟩
    | ok header =>
      refine ⟨_, rfl, rfl, rfl, rfl, rfl, fun _ view hview => ?_⟩
      cases hview
      exact ⟨Nat.le_refl _, fun _ => shown⟩

end Work

end Mailroom
