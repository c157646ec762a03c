import Mailroom.Proofs.Command.Steps
import Mailroom.Proofs.Message.Intake
import Mailroom.Proofs.Rule.Grammar

/-!
# Forged lines

A header goes out as one line for each field, if no value of a field has a break in it. None has
one in a message that is read, but the sender of the command line is stored as it was given, with
the comments and quotations that it holds, and templates copy what is stored.

* `Action.isName_of_parse`: actions write to fields with proper names;
* `Rule.isClean_rewritten`: a clean header stays clean under rules with clean templates;
* `Header.IsLineByLine`: a written header comes apart into the lines of its fields;
* `Router.deliver_lines`: when it does so, for every message that is handed on.
-/

namespace Mailroom

/-! ### Rewriting -/

/-- The action of a line writes to a field with a proper name. -/
theorem Action.isName_of_parse {line : Text} {a : Action} (h : parse line = .ok a) :
    (FieldName.canonical a.field).IsName :=
  FieldName.isName_canonical (FieldName.isName_of_isToken (isToken_of_parse h))

namespace Rule

variable {shown : Text → Prop}

/-- A clean header stays clean under a rule that renders clean texts. -/
theorem isClean_rewritten (r : Rule)
    (names : ∀ a ∈ r.actions, (FieldName.canonical a.field).IsName)
    (rendered : ∀ a ∈ r.actions, ∀ h : Header, Header.IsClean shown h.fields →
      shown (FieldName.canonical a.field) → (Template.render h.first a.template).IsUnbroken)
    {h : Header} (clean : Header.IsClean shown h.fields) :
    Header.IsClean shown (r.rewritten h).fields := by
  unfold rewritten
  generalize r.actions = actions at names rendered
  induction actions generalizing h with
  | nil => exact clean
  | cons a actions ih =>
    rw [List.forall_mem_cons] at names rendered
    exact ih (Header.isClean_replaceValues clean names.1 (rendered.1 h clean)) names.2 rendered.2

end Rule

/-! ### Writing -/

/-- A written header comes apart into one line for each field of a view, hidden ones left out,
and has no other break in it. -/
def Header.IsLineByLine (view : Header) (head : Octets) : Prop :=
  some (Framing.crlfLines head) = (view.written.map Header.line).mapM Utf8.encode? ∧
    ∀ line ∈ Framing.crlfLines head, line.IsUnbroken

namespace Email

open Header

/-- The view of a message that has a sender shows it. -/
theorem written_ne_nil {h view : Header} {sender : Address} {senders : AddressList}
    (parses : h.addresses "from" = .ok (sender :: senders)) (shown : reconcile h = .ok view) :
    view.written ≠ [] := by
  obtain ⟨from?, primary, cc, hs, -, -, fields⟩ := reconcile_eq_ok shown
  have found : lookup? view.fields "From" = from?.map (⟨"From", ·, []⟩) := by
    rw [fields, lookup?_viewFields, if_pos rfl]
  rw [canonicalField_of_parses parses] at hs
  have part : shownPart "from" (sender :: senders) = [sender] := by
    unfold shownPart
    rw [if_pos rfl, List.take_succ_cons, List.take_zero]
  rw [part, List.isEmpty_cons, if_neg Bool.false_ne_true] at hs
  cases rendered : AddressList.render? [sender] with
  | none =>
    rw [rendered] at hs
    cases hs
  | some text =>
    rw [rendered] at hs
    cases hs
    have visible : isHidden (Text.ofString "From") = false := by decide
    exact List.ne_nil_of_mem (mem_written.2 ⟨mem_of_lookup? found, visible⟩)

end Email

/-! ### Handing on -/

namespace Router

/-- A rule that has decided is one of those of the router. -/
theorem mem_of_choose_eq_ok {router : Router} {h : Header} {decision : Decision}
    (e : router.choose h = .ok decision) : decision.rule ∈ router.rules := by
  obtain ⟨before, after, split, -⟩ := chooseFrom_eq_ok e
  rw [split]
  exact List.mem_append_right before List.mem_cons_self

/-- Every action of a router has been read from a line, and its template has no break. -/
def HasCleanActions (router : Router) : Prop :=
  ∀ r ∈ router.rules, ∀ a ∈ r.actions,
    (∃ line, Action.parse line = .ok a) ∧ a.template.IsUnbroken

/-- No action of a router copies the field of the sender. -/
def CopiesNoSender (router : Router) : Prop :=
  ∀ r ∈ router.rules, ∀ a ∈ r.actions, ∀ field, Template.Mentions a.template field →
    FieldName.canonical field ≠ Text.ofString "From"

end Router

/-- A dispatch of a message whose sender has been given on the command line: its head and its body
are lines, the lines of the head are those of the view, exactly if no value that is shown has a
break; and none has, unless that sender has one and some action copies it. -/
def Dispatch.IsLines (router : Router) (o : Options) (e : Email) (x : Dispatch) : Prop :=
  ∃ view head, Email.reconcile e.header = .ok view ∧ view.write? = some head ∧
    x.message = head ++ [0x0D, 0x0A, 0x0D, 0x0A] ++ e.message ∧
    (∀ line ∈ Framing.crlfLines e.message, line.IsUnbroken) ∧
    (view.IsLineByLine head ↔ ∀ f ∈ view.written, f.first.IsUnbroken) ∧
    (o.sender.trim.IsUnbroken ∨ router.CopiesNoSender → view.IsLineByLine head)

namespace Email

/-- A message with the sender and the recipients of the command line has breaks in no field but
that of its sender, and there only if the sender was given with some. -/
theorem isClean_addressed {ignoreDots : Bool} {data : Octets} {e e' : Email} {o : Options}
    {journal journal' : Journal} (read : Email.read ignoreDots data = .ok e)
    (addressed : perform (Command.address o e) journal = (.ok e', journal')) :
    Header.IsClean (fun name => name = Text.ofString "From" → o.sender.trim.IsUnbroken)
        e'.header.fields ∧
      e'.header.isReadOnly = false ∧ e'.kept = none ∧
      ∀ line ∈ Framing.crlfLines e'.message, line.IsUnbroken := by
  obtain ⟨clean, writable, body⟩ := isClean_read read
  have kept : e.kept = none := by
    obtain ⟨lines, header, -, -, rfl, -⟩ := read_eq_ok read
    rfl
  have clean : Header.IsClean (fun name => name = Text.ofString "From" → o.sender.trim.IsUnbroken)
      e.header.fields := ⟨clean.names, fun f hf _ => clean.values f hf trivial⟩
  obtain ⟨⟨e₁, signed, directed⟩, -⟩ := (Command.perform_address_eq_ok_iff writable).1 addressed
  obtain ⟨message₁, kept₁, closed₁⟩ := signed.kept
  obtain ⟨message', kept', closed'⟩ := directed.kept
  have clean₁ : Header.IsClean
      (fun name => name = Text.ofString "From" → o.sender.trim.IsUnbroken) e₁.header.fields := by
    cases signed with
    | unchanged => exact clean
    | signed => exact Header.isClean_replaceValues clean (by decide) fun h => h rfl
  refine ⟨?_, closed'.trans (closed₁.trans writable), kept'.trans (kept₁.trans kept),
    by rwa [message', message₁]⟩
  cases directed with
  | unchanged => exact clean₁
  | directed _ parse rendered =>
    have unbroken :=
      AddressList.isUnbroken_render? (Address.isUnbroken_of_mapM_parse parse) rendered
    exact Header.isClean_replaceValues clean₁ (by decide) fun _ => unbroken.trim

end Email

/-- What is handed on of a message whose header is clean but for its sender comes apart into
lines. -/
theorem Email.isLines_of_dispatch? {router : Router} {o : Options} {e : Email}
    {auth : Option Auth} {host : Text} {x : Dispatch} {text : Option Text}
    (names : Header.IsClean (fun _ => False) e.header.fields)
    (values : o.sender.trim.IsUnbroken ∨ router.CopiesNoSender →
      Header.IsClean (fun name => name = Text.ofString "From" → o.sender.trim.IsUnbroken)
        e.header.fields)
    (body : ∀ line ∈ Framing.crlfLines e.message, line.IsUnbroken)
    (sent : dispatch? e.header e.message auth host = .ok (x, text)) : x.IsLines router o e := by
  obtain ⟨sender, recipients, henvelope, hwire, -⟩ := dispatch?_eq_ok sent
  obtain ⟨view, head, hview, hwrite, hmessage⟩ := octets?_eq_ok hwire
  obtain ⟨⟨senders, hsenders⟩, parses⟩ := envelope?_eq_ok henvelope
  -- names are clean in any case, so lines can be forged by values alone
  have viewNames : Header.IsClean (fun _ => False) view.fields :=
    isClean_reconcile (names.mono fun _ h => h.2) (fun _ => id) parses hview
  have lines := Header.crlfLines_write?_iff hwrite (written_ne_nil hsenders hview)
  have exactly : view.IsLineByLine head ↔ ∀ f ∈ view.written, f.first.IsUnbroken := by
    refine lines.trans (forall₂_congr fun f hf => and_iff_right fun c hc => ?_)
    exact (viewNames.names f (Header.mem_written.1 hf).1 c hc).2.2.2
  refine ⟨view, head, hview, hwrite, hmessage, body, exactly, fun condition => exactly.2 ?_⟩
  -- in the view even the sender is clean, as it is written anew from its addresses
  have viewValues : Header.IsClean (fun _ => True) view.fields :=
    isClean_reconcile ((values condition).mono fun name h isFrom => absurd (.inl isFrom) h.1)
      (fun _ => id) parses hview
  exact fun f hf =>
    viewValues.values f (Header.mem_written.1 hf).1 trivial f.first List.mem_cons_self

/-- **Nobody forges a line of the header**, but for the sender of the command line: whatever is
handed on of a message that has been read comes apart into the lines of its view, unless a break in
the text given as the sender is copied into another field. -/
theorem Router.deliver_lines (router : Router) (mailer : Mailer) (dryRun : Bool)
    {ignoreDots : Bool} {data : Octets} {e e' : Email} {o : Options} {journal journal' : Journal}
    (read : Email.read ignoreDots data = .ok e)
    (addressed : perform (Command.address o e) journal = (.ok e', journal'))
    (clean : router.HasCleanActions) :
    ∃ x : Routed, ∃ d : Desk,
      perform (router.deliver mailer dryRun) ⟨e', journal'⟩ = (x.result, d) ∧
        RoutedAt mailer ⟨e', journal'⟩ d x ∧
        ∀ dispatch, x.dispatch = some dispatch → dispatch.IsLines router o d.email := by
  obtain ⟨cleanHeader, writable, kept, body⟩ := Email.isClean_addressed read addressed
  obtain ⟨d, hd, after⟩ := router.perform_deliver mailer dryRun (d := ⟨e', journal'⟩)
    (Email.isCoherent_of_kept_eq_none kept) writable
  refine ⟨_, d, hd, after, fun dispatch hdispatch => ?_⟩
  obtain ⟨decision, text, chosen, header, sent⟩ := routed_dispatch_eq_some hdispatch
  have member := mem_of_choose_eq_ok chosen
  have names : ∀ a ∈ decision.rule.actions, (FieldName.canonical a.field).IsName := fun a ha =>
    (clean _ member a ha).1.elim fun line hline => Action.isName_of_parse hline
  rw [← header, ← after.header, ← after.message] at sent
  refine Email.isLines_of_dispatch? ?_ (fun condition => ?_) ?_ sent
  · rw [after.header, header]
    exact decision.rule.isClean_rewritten names (fun _ _ _ _ h => h.elim)
      (cleanHeader.mono fun _ h => h.elim)
  · rw [after.header, header]
    refine decision.rule.isClean_rewritten names (fun a ha h cleanH _ => ?_) cleanHeader
    refine Template.isUnbroken_render (clean _ member a ha).2 fun field mentions => ?_
    refine cleanH.first fun isFrom => ?_
    rcases condition with unbroken | copiesNone
    · exact unbroken
    · exact absurd isFrom (copiesNone _ member a ha field mentions)
  · rw [after.message]
    exact body

/-! ### Some runs -/

/-- A short message without a sender. -/
def Email.unsigned : Email :=
  .ofParts ⟨[⟨"Subject", "s", []⟩, ⟨"To", "x@y.org", []⟩], false, 2⟩ [0x68, 0x69]

/-- The options of a command line with a sender. -/
def Options.sending (sender : Text) : Options := ⟨none, sender, false, false, false, false, []⟩

/-- A router with one rule, which notes the sender of every message. -/
def Router.signing : Router :=
  ⟨⟨"sign", [.everything], [⟨"X-Sender", "\x7b\x7bfrom\x7d\x7d"⟩], none, "h"⟩, []⟩

theorem Router.hasCleanActions_signing : signing.HasCleanActions := by
  intro r hr a ha
  rw [List.mem_singleton.1 hr] at ha
  rw [List.mem_singleton.1 ha]
  exact ⟨⟨"SetHeader X-Sender:\x7b\x7bfrom\x7d\x7d", by decide +kernel⟩, by decide⟩

/-- A sender without breaks is noted in one line. -/
theorem Router.signing_lines :
    ∃ x : Routed, ∃ d : Desk,
      perform (signing.deliver .accepting false)
          ⟨Work.replaced .unsigned "From" "a@b.c", []⟩ = (x.result, d) ∧
        RoutedAt .accepting ⟨Work.replaced .unsigned "From" "a@b.c", []⟩ d x ∧
        ∀ dispatch, x.dispatch = some dispatch →
          dispatch.IsLines signing (.sending "a@b.c") d.email := by
  have read : Email.read false (Utf8.encodeDropping "Subject: s\nTo: x@y.org\n\nhi\n") =
      .ok .unsigned := by decide +kernel
  have addressed : perform (Command.address (.sending "a@b.c") .unsigned) [] =
      (.ok (Work.replaced .unsigned "From" "a@b.c"), []) := by decide +kernel
  exact Router.deliver_lines _ _ _ read addressed Router.hasCleanActions_signing

/-- A sender with a break in a comment is accepted, and noted in two lines. -/
theorem Router.signing_forges_line :
    let sender : Text := "a@b.c (x\r\nEvil: yes)"
    let e := Work.replaced .unsigned "From" sender
    perform (Command.address (.sending sender) .unsigned) [] = (.ok e, []) ∧
      ∃ dispatch ∈ (perform (signing.deliver .accepting false) ⟨e, []⟩).2.journal.dispatches,
        Utf8.encodeDropping "Evil: yes)" ∈ Framing.crlfLines dispatch.message := by
  exact ⟨by decide +kernel, by decide +kernel⟩

end Mailroom
