import Mailroom.Proofs.Routing.Decision

/-!
# Messages that can come about

* `Desk.Follows`: what a desk may have become in any work: a header that counts its changes, and
  a kept view that is never wrong and not built twice;
* `Email.Operation`: what can be done with a message, with `Operation.work` for what it does;
* `Email.Reachable`: the messages that come about in any number of operations;
* `Email.Reachable.isCoherent`: the view such a message keeps is never wrong;
* `Email.Reachable.journal_send`: what sending such a message puts into the journal.
-/

namespace Mailroom

/-- A change of a header, unless it is refused. One that is closed stays as it is, and any other
counts the change, unless its fields have stayed the same. -/
structure Header.IsChange (f : Header → Except HeaderFault Header) : Prop where
  closed : ∀ {h h' : Header}, h.isReadOnly = true → f h = .ok h' → h' = h
  counted : ∀ {h h' : Header}, f h = .ok h' →
    h.revision < h'.revision ∨ h'.revision = h.revision ∧ h'.fields = h.fields

namespace Header

theorem isChange_set (field value : Text) : IsChange (·.set field value) where
  closed hclosed e := by simp [set, hclosed] at e
  counted e := .inl (by rw [revision_of_set e]; omega)

theorem isChange_add (field value : Text) : IsChange (·.add field value) where
  closed hclosed e := by simp [add, hclosed] at e
  counted e := .inl (by rw [revision_of_add e]; omega)

theorem isChange_delete (field : Text) : IsChange (·.delete field) where
  closed hclosed e := by simp [delete, hclosed] at e
  counted e := by
    simp only [delete] at e
    split at e
    · cases e
    · split at e <;> cases e
      · exact .inl (Nat.lt_succ_self _)
      · exact .inr ⟨rfl, rfl⟩

theorem isChange_freeze : IsChange (fun h => .ok h.freeze) where
  closed {h h'} hclosed e := by
    cases e
    cases h
    cases hclosed
    rfl
  counted e := by
    cases e
    exact .inr ⟨rfl, rfl⟩

end Header

/-- What a desk may have become in any work. The header counts its changes and is not touched
when it is closed; the kept view is not wrong if it was not before, and one that was fresh is
still kept if nothing has been counted. -/
structure Desk.Follows (d d' : Desk) : Prop where
  revision_le : d.email.header.revision ≤ d'.email.header.revision
  closed : d.email.header.isReadOnly = true → d'.email.header = d.email.header
  coherent : d.email.IsCoherent → d'.email.IsCoherent
  fresh : d'.email.header.revision = d.email.header.revision →
    ∀ view, d.email.fresh? = some view → d'.email.fresh? = some view

namespace Desk.Follows

variable {d d' d'' : Desk}

theorem refl (d : Desk) : d.Follows d := ⟨Nat.le_refl _, fun _ => rfl, id, fun _ _ => id⟩

theorem trans (h : d.Follows d') (h' : d'.Follows d'') : d.Follows d'' where
  revision_le := Nat.le_trans h.revision_le h'.revision_le
  closed hclosed := by
    have same := h.closed hclosed
    rw [h'.closed (by rw [same]; exact hclosed), same]
  coherent := h'.coherent ∘ h.coherent
  -- the count cannot go up and come back, so it has stood still on the way
  fresh same view := by
    have := h.revision_le
    have := h'.revision_le
    exact h'.fresh (by omega) view ∘ h.fresh (by omega) view

end Desk.Follows

namespace Work

variable {α β : Type}

/-- Looking at a view that is fresh changes nothing at all. -/
theorem perform_view_of_fresh {d : Desk} {header : Header} (fresh : d.email.fresh? = some header) :
    perform view d = (.ok header, d) := by
  unfold view
  rw [perform_bind_ok (perform_email d), fresh]
  rfl

/-- Work that a desk follows from, whatever comes of it. -/
def IsFollowed (w : Work α) : Prop := ∀ d : Desk, d.Follows (perform w d).2

theorem isFollowed_bind {w : Work α} {next : α → Work β} (hw : w.IsFollowed)
    (hnext : ∀ a, (next a).IsFollowed) : IsFollowed (w >>= next) := by
  intro d
  have := hw d
  rw [perform_bind]
  rcases hp : perform w d with ⟨failure | a, d'⟩ <;> rw [hp] at this
  · exact this
  · exact this.trans (hnext a d')

theorem isFollowed_pure (a : α) : IsFollowed (pure a) := fun d => .refl d

theorem isFollowed_throw (failure : Failure) : IsFollowed (throw failure : Work α) :=
  fun d => .refl d

theorem isFollowed_email : IsFollowed email := fun d => by
  rw [perform_email]
  exact .refl d

theorem isFollowed_ofExcept (x : Except Failure α) : IsFollowed (ofExcept x) := fun d => by
  rw [perform_ofExcept]
  exact .refl d

theorem isFollowed_write (events : Journal) :
    IsFollowed (modify fun desk => { desk with journal := desk.journal ++ events }) :=
  fun _ => ⟨Nat.le_refl _, fun _ => rfl, id, fun _ _ => id⟩

theorem isFollowed_log (level : Level) (text : Option Text) : IsFollowed (log level text) :=
  isFollowed_write [.log ⟨level, text⟩]

theorem isFollowed_setAuth (auth : Option Auth) :
    IsFollowed (change ({ · with auth := auth })) :=
  fun _ => ⟨Nat.le_refl _, fun _ => rfl, id, fun _ _ => id⟩

theorem isFollowed_view : IsFollowed view := fun d => by
  cases fresh : d.email.fresh? with
  | some header =>
    rw [perform_view_of_fresh fresh]
    exact .refl d
  | none =>
    have same : (perform view d).2.email.header = d.email.header := by
      unfold view
      rw [perform_bind_ok (perform_email d), fresh, perform_bind, perform_ofExcept]
      cases Email.reconcile d.email.header <;> rfl
    refine ⟨Nat.le_of_eq (by rw [same]), fun _ => same, fun coherent => ?_, fun _ view hview => ?_⟩
    · obtain ⟨d', hview, refreshed⟩ := perform_view coherent
      rw [hview]
      exact refreshed.coherent coherent
    · rw [fresh] at hview
      cases hview

theorem isFollowed_changeHeader {f : Header → Except HeaderFault Header}
    (change : Header.IsChange f) : IsFollowed (changeHeader f) := by
  intro d
  rw [perform_changeHeader]
  cases hf : f d.email.header with
  | error fault => exact .refl d
  | ok header =>
    have closed := fun hclosed => change.closed hclosed hf
    rcases change.counted hf with newer | ⟨same, fields⟩
    · exact ⟨Nat.le_of_lt newer, closed, fun coherent => coherent.of_newer newer,
        fun same => absurd same (Nat.ne_of_gt newer)⟩
    · -- what is kept is as fresh or as stale as it was, and the fields have stayed
      refine ⟨Nat.le_of_eq same.symm, closed, fun coherent view hview => ?_, fun _ view => ?_⟩
      · obtain ⟨le, shown⟩ := coherent view hview
        exact ⟨by rw [same]; exact le, fun fresh => by
          rw [← shown (fresh.trans same)]
          exact Email.reconcile_congr fields⟩
      · simp only [Email.fresh?, same, imp_self]

theorem isFollowed_setHeader (field value : Text) : IsFollowed (setHeader field value) :=
  isFollowed_changeHeader (Header.isChange_set field value)

theorem isFollowed_setSender (value : Text) : IsFollowed (setSender value) :=
  isFollowed_bind (isFollowed_ofExcept _) fun _ => isFollowed_setHeader _ _

theorem isFollowed_setRecipients (value : Text) : IsFollowed (setRecipients value) :=
  isFollowed_bind (isFollowed_ofExcept _) fun _ => isFollowed_setHeader _ _

theorem isFollowed_send (mailer : Mailer) (host : Text) : IsFollowed (send mailer host) := by
  refine isFollowed_bind isFollowed_email fun _ => isFollowed_bind (isFollowed_ofExcept _)
    fun sender => isFollowed_bind (isFollowed_ofExcept _) fun primary =>
      isFollowed_bind (isFollowed_ofExcept _) fun _ => isFollowed_bind (isFollowed_ofExcept _)
        fun _ => ?_
  cases sender with
  | none => exact isFollowed_throw _
  | some sender =>
    dsimp only
    split
    · exact isFollowed_throw _
    · refine isFollowed_bind isFollowed_view fun view => ?_
      split
      · exact isFollowed_throw _
      · exact isFollowed_bind (isFollowed_log _ _) fun _ => isFollowed_bind (isFollowed_write _)
          fun _ => isFollowed_bind (isFollowed_write _) fun _ => isFollowed_ofExcept _

end Work

open Work

theorem Matcher.isFollowed_accepts (m : Matcher) : IsFollowed m.accepts := by
  cases m with
  | everything => exact isFollowed_pure true
  | field c =>
    refine isFollowed_bind isFollowed_view fun _ => isFollowed_bind (isFollowed_ofExcept _)
      fun value => ?_
    cases value with
    | none => exact isFollowed_pure false
    | some value => exact isFollowed_ofExcept _

theorem Rule.isFollowed_allAccept (ms : List Matcher) : IsFollowed (allAccept ms) := by
  induction ms with
  | nil => exact isFollowed_pure true
  | cons m ms ih =>
    refine isFollowed_bind m.isFollowed_accepts fun accepted => ?_
    cases accepted with
    | false => exact isFollowed_pure false
    | true => exact ih

theorem Rule.isFollowed_accepts (r : Rule) : IsFollowed r.accepts := by
  unfold accepts
  split
  · exact isFollowed_pure false
  · exact isFollowed_allAccept r.matchers

theorem Rule.isFollowed_apply (r : Rule) : IsFollowed r.apply := by
  unfold apply
  rw [List.forM_eq_forM]
  induction r.actions with
  | nil => exact isFollowed_pure ()
  | cons a actions ih =>
    rw [List.forM_cons]
    exact isFollowed_bind (isFollowed_bind isFollowed_email fun _ =>
      isFollowed_setHeader _ _) fun _ => ih

theorem Router.isFollowed_decideFrom (rules : List Rule) (position : Nat) :
    IsFollowed (decideFrom position rules) := by
  induction rules generalizing position with
  | nil => exact isFollowed_throw _
  | cons r rules ih =>
    refine isFollowed_bind r.isFollowed_accepts fun accepted => ?_
    cases accepted with
    | false => exact ih (position + 1)
    | true =>
      exact isFollowed_bind (isFollowed_log _ _) fun _ =>
        isFollowed_bind r.isFollowed_apply fun _ =>
          isFollowed_bind (isFollowed_setAuth _) fun _ => isFollowed_pure _

theorem Router.isFollowed_deliver (router : Router) (mailer : Mailer) (dryRun : Bool) :
    IsFollowed (router.deliver mailer dryRun) := by
  refine isFollowed_bind (isFollowed_decideFrom router.rules 0) fun decision =>
    isFollowed_bind isFollowed_email fun _ =>
      isFollowed_bind (isFollowed_log _ _) fun _ => ?_
  cases dryRun with
  | true => exact isFollowed_bind (isFollowed_log _ _) fun _ => isFollowed_pure _
  | false => exact isFollowed_bind (isFollowed_send _ _) fun _ => isFollowed_pure _

namespace Email

/-- What can be done with a message. -/
inductive Operation where
  | setSender (value : Text)
  | setRecipients (value : Text)
  | setHeader (field value : Text)
  | addHeader (field value : Text)
  | deleteHeader (field : Text)
  | freezeHeader
  | setAuth (auth : Option Auth)
  | view
  | accept (rule : Rule)
  | apply (rule : Rule)
  | deliver (router : Router) (mailer : Mailer) (dryRun : Bool)
  | send (mailer : Mailer) (host : Text)

/-- What is done in an operation; a failure may be all that comes of it. -/
def Operation.work : Operation → Work Unit
  | setSender value => Work.setSender value
  | setRecipients value => Work.setRecipients value
  | setHeader field value => Work.setHeader field value
  | addHeader field value => Work.changeHeader (·.add field value)
  | deleteHeader field => Work.deleteHeader field
  | freezeHeader => Work.changeHeader fun header => .ok header.freeze
  | setAuth auth => Work.change ({ · with auth := auth })
  | view => Work.view >>= fun _ => pure ()
  | accept rule => rule.accepts >>= fun _ => pure ()
  | apply rule => rule.apply
  | deliver router mailer dryRun => router.deliver mailer dryRun >>= fun _ => pure ()
  | send mailer host => Work.send mailer host

/-- The messages that can come about: each begins with a header and a body, as one that is read
does, and goes through any number of operations. -/
inductive Reachable : Email → Prop where
  | start (header : Header) (message : Octets) : Reachable (ofParts header message)
  | step {e : Email} (reached : Reachable e) (journal : Journal) (operation : Operation) :
      Reachable (perform operation.work ⟨e, journal⟩).2.email

/-- A message that has been read has the header of its first lines and the body after them, and
its address fields have addresses. -/
theorem read_eq_ok {ignoreDots : Bool} {data : Octets} {e : Email}
    (h : read ignoreDots data = .ok e) :
    ∃ lines header, lines = (if ignoreDots then Framing.lines data
        else Framing.untilDot (Framing.lines data)) ∧
      Header.parse ((Framing.headAndBody lines).1.map Utf8.decodeKeeping) = .ok header ∧
      e = ofParts header (Framing.headAndBody lines).2 ∧ e.checkAddresses = .ok () := by
  unfold read at h
  dsimp only at h
  generalize (if ignoreDots then Framing.lines data
    else Framing.untilDot (Framing.lines data)) = lines at h ⊢
  refine ⟨lines, ?_⟩
  rcases hp : Header.parse ((Framing.headAndBody lines).1.map Utf8.decodeKeeping) with
    fault | header
  · rw [hp] at h
    cases h
  · rw [hp] at h
    simp only [mapError_ok, bind, Except.bind] at h
    rcases hc : checkAddresses (ofParts header (Framing.headAndBody lines).2) with failure | ⟨⟩
    · rw [hc] at h
      cases h
    · rw [hc] at h
      cases h
      exact ⟨header, rfl, rfl, rfl, hc⟩

theorem reachable_read {ignoreDots : Bool} {data : Octets} {e : Email}
    (h : read ignoreDots data = .ok e) : Reachable e := by
  obtain ⟨lines, header, -, -, rfl, -⟩ := read_eq_ok h
  exact .start header _

theorem isFollowed_work (operation : Operation) : IsFollowed operation.work := by
  cases operation with
  | setSender value => exact isFollowed_setSender value
  | setRecipients value => exact isFollowed_setRecipients value
  | setHeader field value => exact isFollowed_setHeader field value
  | addHeader field value => exact isFollowed_changeHeader (Header.isChange_add field value)
  | deleteHeader field => exact isFollowed_changeHeader (Header.isChange_delete field)
  | freezeHeader => exact isFollowed_changeHeader Header.isChange_freeze
  | setAuth auth => exact isFollowed_setAuth auth
  | view => exact isFollowed_bind isFollowed_view fun _ => isFollowed_pure ()
  | accept rule => exact isFollowed_bind rule.isFollowed_accepts fun _ => isFollowed_pure ()
  | apply rule => exact rule.isFollowed_apply
  | deliver router mailer dryRun =>
    exact isFollowed_bind (router.isFollowed_deliver mailer dryRun) fun _ => isFollowed_pure ()
  | send mailer host => exact isFollowed_send mailer host

/-- **The view that a message keeps is never wrong**: if it passes for fresh, it is the view of
the header. -/
theorem Reachable.isCoherent {e : Email} (reached : Reachable e) : e.IsCoherent := by
  induction reached with
  | start header message => exact isCoherent_of_kept_eq_none rfl
  | step _ journal operation ih => exact (isFollowed_work operation ⟨_, journal⟩).coherent ih

/-- Sending a message that has come about hands nothing on, or the dispatch of the message, once. -/
theorem Reachable.journal_send {e : Email} (reached : e.Reachable) (mailer : Mailer) (host : Text)
    (journal : Journal) :
    (∃ failure, dispatch? e.header e.message e.auth host = .error failure ∧
        (perform (send mailer host) ⟨e, journal⟩).2.journal = journal) ∨
      ∃ dispatch text, dispatch? e.header e.message e.auth host = .ok (dispatch, text) ∧
        (perform (send mailer host) ⟨e, journal⟩).2.journal =
          journal ++ [.log ⟨.debug, text⟩, .dispatch dispatch] ++ (mailer dispatch).journal := by
  obtain ⟨d', refreshed, performs⟩ :=
    perform_send mailer host (d := ⟨e, journal⟩) reached.isCoherent
  rw [performs]
  cases sent : dispatch? e.header e.message e.auth host with
  | error failure => exact .inl ⟨failure, rfl, refreshed.journal⟩
  | ok both =>
    refine .inr ⟨both.1, both.2, rfl, ?_⟩
    show d'.journal ++ _ ++ _ = _
    rw [refreshed.journal]

end Email

end Mailroom
