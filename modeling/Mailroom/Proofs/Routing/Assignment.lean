import Mailroom.Proofs.Header.History
import Mailroom.Proofs.Routing.Decision
import Mailroom.Proofs.Rule.Template

/-!
# Actions as assignments

The actions of a rule are carried out from left to right, and each gives one field one value.

* `Action.key`: the field that an action gives a value, whatever the case of its name;
* `Header.SameValues`: two headers have the same fields, which each action keeps;
* `Action.sameValues_swap`: actions on two fields that neither reads in the other commute;
* `Rule.apply_assigns`: what is found under each name after the actions of a rule.
-/

namespace Mailroom

open Header

/-- The canonical name of the field that an action gives a value. -/
def Action.key (a : Action) : Text := FieldName.canonical a.field

/-! ### Headers with the same fields -/

namespace Header

/-- Two headers have the same values under every name. Their fields may have arrived in different
orders. -/
def SameValues (h k : Header) : Prop := ∀ key, valuesOf h.fields key = valuesOf k.fields key

variable {h k : Header}

theorem SameValues.first (same : h.SameValues k) : h.first = k.first := by
  funext name
  rw [first_eq, first_eq, same]

/-- Headers with the same values under every name have the same fields in order. -/
theorem SameValues.sorted (same : h.SameValues k) (nodupH : (h.fields.map (·.name)).Nodup)
    (nodupK : (k.fields.map (·.name)).Nodup) : h.sorted = k.sorted := by
  refine sorted_congr nodupH nodupK fun name => ?_
  rw [lookup?_eq, lookup?_eq, same]

end Header

/-! ### One action -/

namespace Action

variable {h k : Header}

/-- An action gives its field one value and leaves all others as they are. -/
theorem valuesOf_rewritten (a : Action) (h : Header) (key : Text) :
    valuesOf (rewritten h a).fields key =
      if key = a.key then [Template.render h.first a.template] else valuesOf h.fields key :=
  valuesOf_replaceValues a.key _ key h.fields

theorem rewritten_sameValues (a : Action) (same : h.SameValues k) :
    (rewritten h a).SameValues (rewritten k a) := by
  intro key
  rw [valuesOf_rewritten, valuesOf_rewritten, same.first, same]

/-- A template reads what it did before an action on a field that it does not mention. -/
theorem render_rewritten {t : Text} (a : Action) (h : Header)
    (apart : ∀ field, Template.Mentions t field → FieldName.canonical field ≠ a.key) :
    Template.render (rewritten h a).first t = Template.render h.first t := by
  refine Template.render_congr fun field mentions => ?_
  rw [first_eq, first_eq, valuesOf_rewritten, if_neg (apart field mentions)]

/-- **Actions commute** if they are on different fields and neither has the field of the other in
its template. -/
theorem sameValues_swap {a b : Action} (apart : a.key ≠ b.key)
    (ha : ∀ field, Template.Mentions a.template field → FieldName.canonical field ≠ b.key)
    (hb : ∀ field, Template.Mentions b.template field → FieldName.canonical field ≠ a.key)
    (h : Header) :
    (rewritten (rewritten h b) a).SameValues (rewritten (rewritten h a) b) := by
  intro key
  simp only [valuesOf_rewritten, render_rewritten b h ha, render_rewritten a h hb]
  by_cases same : key = a.key
  · rw [if_pos same, if_neg (same ▸ apart), if_pos same]
  · rw [if_neg same, if_neg same]

theorem nodup_foldl_rewritten (actions : List Action) (nodup : (h.fields.map (·.name)).Nodup) :
    ((actions.foldl rewritten h).fields.map (·.name)).Nodup := by
  induction actions generalizing h with
  | nil => exact nodup
  | cons a actions ih => exact ih (nodup_replaceValues nodup)

theorem foldl_rewritten_sameValues (actions : List Action) (same : h.SameValues k) :
    (actions.foldl rewritten h).SameValues (actions.foldl rewritten k) := by
  induction actions generalizing h k with
  | nil => exact same
  | cons a actions ih => exact ih (a.rewritten_sameValues same)

/-- Actions on other fields leave a field as it is. -/
theorem valuesOf_foldl_rewritten {actions : List Action} {key : Text}
    (apart : ∀ a ∈ actions, a.key ≠ key) (h : Header) :
    valuesOf (actions.foldl rewritten h).fields key = valuesOf h.fields key := by
  induction actions generalizing h with
  | nil => rfl
  | cons a actions ih =>
    rw [List.forall_mem_cons] at apart
    rw [List.foldl_cons, ih apart.2, valuesOf_rewritten, if_neg (Ne.symm apart.1)]

end Action

/-! ### All actions of a rule -/

namespace Rule

/-- The last action on a field, if there is any. -/
theorem exists_last_action {actions : List Action} {a : Action} (ha : a ∈ actions) :
    ∃ before last after, actions = before ++ last :: after ∧ last.key = a.key ∧
      ∀ b ∈ after, b.key ≠ a.key := by
  -- from the end, as the last action on the field is looked for
  induction actions using List.reverseRecOn with
  | nil => cases ha
  | append_singleton actions b ih =>
    by_cases same : b.key = a.key
    · exact ⟨actions, b, [], rfl, same, fun _ h => (by cases h)⟩
    · rcases List.mem_append.1 ha with ha | ha
      · obtain ⟨before, last, after, rfl, hlast, apart⟩ := ih ha
        refine ⟨before, last, after ++ [b], by simp, hlast, fun c hc => ?_⟩
        rcases List.mem_append.1 hc with hc | hc
        · exact apart c hc
        · exact List.mem_singleton.1 hc ▸ same
      · exact absurd (List.mem_singleton.1 ha ▸ rfl) same

/-- **The actions of a rule are assignments from left to right.** They change nothing of a message
but its header. A field that none of them is on keeps its values; any other has one value, the
template of the last action on it, rendered with the header that the actions before that one leave.
Two actions side by side may change places if they are on different fields and neither has the
field of the other in its template. -/
theorem apply_assigns (r : Rule) {d : Desk} (writable : d.email.header.isReadOnly = false) :
    let ran (actions : List Action) := perform (apply { r with actions := actions }) d
    ∃ h : Header,
      perform r.apply d = (.ok (), { d with email := { d.email with header := h } }) ∧
      (∀ key, (∀ a ∈ r.actions, a.key ≠ key) →
        valuesOf h.fields key = valuesOf d.email.header.fields key) ∧
      (∀ a ∈ r.actions, ∃ before last rest, r.actions = before ++ last :: rest ∧
        last.key = a.key ∧ (∀ b ∈ rest, b.key ≠ a.key) ∧ (ran before).1 = .ok () ∧
        valuesOf h.fields a.key =
          [Template.render (ran before).2.email.header.first last.template]) ∧
      ∀ before a b rest, r.actions = before ++ a :: b :: rest → a.key ≠ b.key →
        (∀ field, Template.Mentions a.template field → FieldName.canonical field ≠ b.key) →
        (∀ field, Template.Mentions b.template field → FieldName.canonical field ≠ a.key) →
        ∃ k : Header, ran (before ++ b :: a :: rest) =
            (.ok (), { d with email := { d.email with header := k } }) ∧
          k.SameValues h ∧
          ((d.email.header.fields.map (·.name)).Nodup → k.sorted = h.sorted) := by
  intro ran
  have whole : ∀ actions, ran actions = (.ok (), { d with email := { d.email with
      header := actions.foldl Action.rewritten d.email.header } }) := fun actions =>
    perform_apply { r with actions := actions } writable
  refine ⟨_, perform_apply r writable, fun key apart => Action.valuesOf_foldl_rewritten apart _,
    fun a ha => ?_, fun before a b rest split apart hab hba => ?_⟩
  · obtain ⟨before, last, rest, split, same, apart⟩ := exists_last_action ha
    refine ⟨before, last, rest, split, same, apart, by rw [whole], ?_⟩
    -- the actions after the last one on the field do not touch it
    rw [rewritten, split, List.foldl_append, List.foldl_cons,
      Action.valuesOf_foldl_rewritten apart, Action.valuesOf_rewritten, if_pos same.symm, whole]
  · have same : ((before ++ b :: a :: rest).foldl Action.rewritten d.email.header).SameValues
        (r.rewritten d.email.header) := by
      rw [rewritten, split, List.foldl_append, List.foldl_append]
      exact Action.foldl_rewritten_sameValues rest (Action.sameValues_swap apart hab hba _)
    exact ⟨_, whole _, same, fun nodup => same.sorted (Action.nodup_foldl_rewritten _ nodup)
      (Action.nodup_foldl_rewritten _ nodup)⟩

/-- A subject is put after a mark, whatever the case of its name, and `To` stays. -/
theorem marked_subject_assigned :
    let action : Action := ⟨"subject", "[list] \x7b\x7bSUBJECT\x7d\x7d"⟩
    let r : Rule := ⟨"lists", [.everything], [action], none, "h"⟩
    let before : Header := .ofFields [("To", ["x@y.org"]), ("Subject", ["news", "old"])]
    let d : Desk := ⟨.ofParts before [], []⟩
    d.email.header.isReadOnly = false ∧
      ∃ h : Header, perform r.apply d = (.ok (), { d with email := { d.email with header := h } }) ∧
        valuesOf h.fields "To" = ["x@y.org"] ∧ valuesOf h.fields "Subject" = ["[list] news"] := by
  intro action r before d
  obtain ⟨h, ran, kept, assigned, -⟩ := apply_assigns r (d := d) rfl
  refine ⟨rfl, h, ran, kept "To" (by decide), ?_⟩
  obtain ⟨_ | ⟨_, _⟩, last, rest, split, -, -, -, value⟩ := assigned _ List.mem_cons_self
  · cases split
    exact value.trans (by decide)
  · simp [r] at split

end Rule

end Mailroom
