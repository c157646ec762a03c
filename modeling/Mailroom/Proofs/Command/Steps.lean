import Mailroom.Command
import Mailroom.Proofs.Message.Desk
import Mailroom.Proofs.Message.View

/-!
# The steps of a run

Until a message is handed on, the steps of a run do nothing to the outside but log.

* `Command.perform_work`: work on a message in a run of the command;
* `Work.perform_setSender`, `Work.perform_setRecipients`: what the two setters do;
* `Command.IsAddressed`: the message that a run goes on with has the sender and the recipients of
  the command line, `Command.perform_address_eq_ok_iff`;
* `Command.IsQuiet`: a step logs and prints, and a run that it ends comes to status 1.
-/

namespace Mailroom

namespace Work

/-- A message with a text in place of a field. -/
def replaced (e : Email) (key value : Text) : Email :=
  { e with header := { e.header with
      fields := Header.replaceValues key value e.header.fields
      revision := e.header.revision + 1 } }

theorem perform_setHeader {d : Desk} (writable : d.email.header.isReadOnly = false)
    (field value : Text) :
    perform (setHeader field value) d =
      (.ok (), { d with email := replaced d.email (FieldName.canonical field) value }) := by
  unfold setHeader
  rw [perform_changeHeader, Header.set_eq_ok writable]
  rfl

/-- A text that cannot be read is refused, and any other is put in the place of a field. -/
theorem perform_setRead {α : Type} (parsed : Except Address.Failure α) (field value : Text)
    (d : Desk) :
    perform (ofExcept (parsed.mapError Failure.ofAddress) >>=
        fun _ => setHeader field value.trim) d = match parsed with
      | .error failure => (.error (Failure.ofAddress failure), d)
      | .ok _ => perform (setHeader field value.trim) d := by
  rw [perform_bind, perform_ofExcept]
  cases parsed <;> rfl

theorem perform_setSender {d : Desk} (writable : d.email.header.isReadOnly = false)
    (value : Text) :
    perform (setSender value) d = match Address.parse value with
      | .error failure => (.error (Failure.ofAddress failure), d)
      | .ok _ => (.ok (), { d with email := replaced d.email "From" value.trim }) := by
  unfold setSender
  rw [perform_setRead, perform_setHeader writable, FieldName.canonical_from]
  cases Address.parse value <;> rfl

theorem perform_setRecipients {d : Desk} (writable : d.email.header.isReadOnly = false)
    (value : Text) :
    perform (setRecipients value) d = match AddressList.parse value with
      | .error failure => (.error (Failure.ofAddress failure), d)
      | .ok _ => (.ok (), { d with email := replaced d.email "To" value.trim }) := by
  unfold setRecipients
  rw [perform_setRead, perform_setHeader writable, FieldName.canonical_to]
  cases AddressList.parse value <;> rfl

/-- No change of a field comes to the journal, also if it is refused. -/
theorem journal_perform_setHeader (field value : Text) (d : Desk) :
    (perform (setHeader field value) d).2.journal = d.journal := by
  unfold setHeader
  rw [perform_changeHeader]
  split <;> rfl

theorem journal_perform_setSender (value : Text) (d : Desk) :
    (perform (setSender value) d).2.journal = d.journal := by
  unfold setSender
  rw [perform_bind, perform_ofExcept]
  cases Address.parse value with
  | error failure => rfl
  | ok address => exact journal_perform_setHeader _ _ d

theorem journal_perform_setRecipients (value : Text) (d : Desk) :
    (perform (setRecipients value) d).2.journal = d.journal := by
  unfold setRecipients
  rw [perform_bind, perform_ofExcept]
  cases AddressList.parse value with
  | error failure => rfl
  | ok addresses => exact journal_perform_setHeader _ _ d

end Work

/-- An event says nothing to a server, and can be written to the console. -/
inductive Event.IsQuiet : Event → Prop
  | log (level : Level) (text : Text) : IsQuiet (.log ⟨level, some text⟩)
  | print (line : Text) : IsQuiet (.print line)

namespace Command

variable {α : Type}

/-- Work on a message in a run of the command: its result, the message and the journal. -/
theorem perform_work (email : Email) (w : Work α) (journal : Journal) :
    perform (work email w) journal =
      (.ok ((perform w ⟨email, journal⟩).1, (perform w ⟨email, journal⟩).2.email),
        (perform w ⟨email, journal⟩).2.journal) := rfl

theorem perform_orReport_eq_ok_iff {text? : Failure → Option Text} {x : Except Failure α} {a : α}
    {journal journal' : Journal} :
    perform (orReport text? x) journal = (.ok a, journal') ↔ x = .ok a ∧ journal' = journal := by
  cases x with
  | ok b =>
    show (Except.ok b, journal) = _ ↔ _
    rw [Prod.mk.injEq, Except.ok.injEq, Except.ok.injEq, eq_comm (a := journal)]
  | error failure =>
    unfold orReport
    dsimp only
    split
    · simp [report, note, perform_bind]
    · simp

/-! ### The words that take the place of a field -/

/-- A message has the sender of the command line, which has to be an address. An empty one is none,
and the message keeps its own. -/
inductive IsSigned (sender : Text) (e : Email) : Email → Prop
  | unchanged (absent : sender = []) : IsSigned sender e e
  | signed {address : Address} (given : sender ≠ [])
      (parses : Address.parse sender = .ok address) :
      IsSigned sender e (Work.replaced e "From" sender.trim)

/-- A message has the recipients of the command line, each of which has to be an address, and which
have to be readable as a list once they are written. If there are none, it keeps its own. -/
inductive IsDirected (words : List Text) (e : Email) : Email → Prop
  | unchanged (absent : words = []) : IsDirected words e e
  | directed {recipients again : AddressList} {text : Text} (given : words ≠ [])
      (parse : words.mapM Address.parse = .ok recipients)
      (rendered : AddressList.render? recipients = some text)
      (reads : AddressList.parse text = .ok again) :
      IsDirected words e (Work.replaced e "To" text.trim)

/-- A message has the sender and the recipients of the command line, so far as there are any. -/
def IsAddressed (o : Options) (e e' : Email) : Prop :=
  ∃ signed, IsSigned o.sender e signed ∧ IsDirected o.recipients signed e'

section

variable {sender : Text} {words : List Text} {e e₁ e₂ : Email}

theorem IsSigned.unique (h : IsSigned sender e e₁) (h' : IsSigned sender e e₂) : e₁ = e₂ := by
  cases h with
  | unchanged absent =>
    cases h' with
    | unchanged => rfl
    | signed given => exact absurd absent given
  | signed given =>
    cases h' with
    | unchanged absent => exact absurd absent given
    | signed => rfl

theorem IsDirected.unique (h : IsDirected words e e₁) (h' : IsDirected words e e₂) : e₁ = e₂ := by
  cases h with
  | unchanged absent =>
    cases h' with
    | unchanged => rfl
    | directed given => exact absurd absent given
  | directed given parse rendered =>
    cases h' with
    | unchanged absent => exact absurd absent given
    | directed _ parse' rendered' =>
      cases parse.symm.trans parse'
      cases rendered.symm.trans rendered'
      rfl

/-- All of a message but two fields is as it came. -/
theorem IsSigned.kept (h : IsSigned sender e e₁) :
    e₁.message = e.message ∧ e₁.kept = e.kept ∧ e₁.header.isReadOnly = e.header.isReadOnly := by
  cases h <;> exact ⟨rfl, rfl, rfl⟩

theorem IsDirected.kept (h : IsDirected words e e₁) :
    e₁.message = e.message ∧ e₁.kept = e.kept ∧ e₁.header.isReadOnly = e.header.isReadOnly := by
  cases h <;> exact ⟨rfl, rfl, rfl⟩

end

section

variable {o : Options} {e e₁ e₂ : Email}

theorem IsAddressed.unique (h : IsAddressed o e e₁) (h' : IsAddressed o e e₂) : e₁ = e₂ := by
  obtain ⟨signed, hsigned, hdirected⟩ := h
  obtain ⟨signed', hsigned', hdirected'⟩ := h'
  cases hsigned.unique hsigned'
  exact hdirected.unique hdirected'

theorem IsAddressed.kept (h : IsAddressed o e e₁) :
    e₁.message = e.message ∧ e₁.kept = e.kept ∧ e₁.header.isReadOnly = e.header.isReadOnly := by
  obtain ⟨signed, hsigned, hdirected⟩ := h
  obtain ⟨message, kept, closed⟩ := hdirected.kept
  obtain ⟨message', kept', closed'⟩ := hsigned.kept
  exact ⟨message.trans message', kept.trans kept', closed.trans closed'⟩

end

/-! ### What a run goes on with -/

section

variable {e e' : Email} {journal journal' : Journal}

/-- A run goes on with the sender of the command line, and with nothing else. -/
theorem perform_setSender_eq_ok_iff (writable : e.header.isReadOnly = false) {sender : Text} :
    perform (setSender sender e) journal = (.ok e', journal') ↔
      IsSigned sender e e' ∧ journal' = journal := by
  unfold setSender
  by_cases absent : sender = []
  · rw [if_pos (by simp [absent]), perform_pure]
    constructor
    · intro h
      cases h
      exact ⟨.unchanged absent, rfl⟩
    · rintro ⟨⟨-⟩ | ⟨given, -⟩, rfl⟩
      · rfl
      · exact absurd absent given
  · rw [if_neg (by simpa using absent), perform_bind_ok (perform_work _ _ _),
      Work.perform_setSender (d := ⟨e, journal⟩) writable]
    cases parses : Address.parse sender with
    | error failure =>
      constructor
      · intro h
        obtain ⟨_, _, hreport, -⟩ := perform_bind_eq_ok_iff.1 h
        cases (perform_orReport_eq_ok_iff.1 hreport).1
      · rintro ⟨⟨empty⟩ | ⟨-, parses'⟩, rfl⟩
        · exact absurd empty absent
        · cases parses.symm.trans parses'
    | ok address =>
      constructor
      · intro h
        cases h
        exact ⟨.signed absent parses, rfl⟩
      · rintro ⟨⟨empty⟩ | -, rfl⟩
        · exact absurd empty absent
        · rfl

/-- Recipients of the command line are single addresses. -/
theorem perform_mapM_recipient_eq_ok_iff {words : List Text} {l : AddressList} :
    perform (words.mapM recipient) journal = (.ok l, journal') ↔
      words.mapM Address.parse = .ok l ∧ journal' = journal := by
  induction words generalizing l with
  | nil =>
    constructor
    · intro h
      cases h
      exact ⟨rfl, rfl⟩
    · rintro ⟨h, rfl⟩
      cases h
      rfl
  | cons word words ih =>
    rw [List.mapM_cons, List.mapM_cons]
    constructor
    · intro h
      obtain ⟨first, j₁, hfirst, h⟩ := perform_bind_eq_ok_iff.1 h
      obtain ⟨rest, j₂, hrest, h⟩ := perform_bind_eq_ok_iff.1 h
      cases h
      obtain ⟨parses, rfl⟩ := perform_orReport_eq_ok_iff.1 hfirst
      obtain ⟨parse, rfl⟩ := ih.1 hrest
      rw [mapError_eq_ok_iff.1 parses, parse]
      exact ⟨rfl, rfl⟩
    · rintro ⟨h, rfl⟩
      obtain ⟨first, parses, h⟩ := bind_eq_ok_iff.1 h
      obtain ⟨rest, parse, h⟩ := bind_eq_ok_iff.1 h
      cases h
      have hfirst : perform (recipient word) journal' = (.ok first, journal') :=
        perform_orReport_eq_ok_iff.2 ⟨mapError_eq_ok_iff.2 parses, rfl⟩
      rw [perform_bind_ok hfirst, perform_bind_ok (ih.2 ⟨parse, rfl⟩)]
      rfl

theorem eq_nil_iff_of_mapM {words : List Text} {l : AddressList}
    (parse : words.mapM Address.parse = .ok l) : l = [] ↔ words = [] := by
  rw [← List.length_eq_zero_iff, ← List.length_eq_zero_iff, (mapM_eq_ok_iff.1 parse).length_eq]

/-- A run goes on with the recipients of the command line, and with nothing else. -/
theorem perform_setRecipients_eq_ok_iff (writable : e.header.isReadOnly = false)
    {words : List Text} :
    perform (setRecipients words e) journal = (.ok e', journal') ↔
      IsDirected words e e' ∧ journal' = journal := by
  unfold setRecipients
  rw [perform_bind_eq_ok_iff]
  constructor
  · rintro ⟨recipients, j₁, hrecipients, h⟩
    obtain ⟨parse, rfl⟩ := perform_mapM_recipient_eq_ok_iff.1 hrecipients
    by_cases absent : words = []
    · rw [if_pos (by simpa using (eq_nil_iff_of_mapM parse).2 absent)] at h
      cases h
      exact ⟨.unchanged absent, rfl⟩
    · rw [if_neg (by simpa using fun none => absent ((eq_nil_iff_of_mapM parse).1 none))] at h
      split at h
      · cases h
      · next text rendered =>
        rw [perform_bind_ok (perform_work _ _ _),
          Work.perform_setRecipients (d := ⟨e, j₁⟩) writable] at h
        cases reads : AddressList.parse text with
        | error failure =>
          rw [reads] at h
          obtain ⟨_, _, hreport, -⟩ := perform_bind_eq_ok_iff.1 h
          cases (perform_orReport_eq_ok_iff.1 hreport).1
        | ok again =>
          rw [reads] at h
          cases h
          exact ⟨.directed absent parse rendered reads, rfl⟩
  · rintro ⟨directed, rfl⟩
    cases directed with
    | unchanged absent =>
      rw [absent]
      exact ⟨[], journal', rfl, rfl⟩
    | @directed recipients again text given parse rendered reads =>
      refine ⟨recipients, journal', perform_mapM_recipient_eq_ok_iff.2 ⟨parse, rfl⟩, ?_⟩
      rw [if_neg (by simpa using fun none => given ((eq_nil_iff_of_mapM parse).1 none))]
      simp only [rendered]
      rw [perform_bind_ok (perform_work _ _ _),
        Work.perform_setRecipients (d := ⟨e, journal'⟩) writable, reads]
      rfl

/-- The message that a run goes on with has the sender and the recipients of the command line. -/
theorem perform_address_eq_ok_iff (writable : e.header.isReadOnly = false) {o : Options} :
    perform (address o e) journal = (.ok e', journal') ↔
      IsAddressed o e e' ∧ journal' = journal := by
  unfold address
  rw [perform_bind_eq_ok_iff]
  constructor
  · rintro ⟨signed, j₁, hsender, hrecipients⟩
    obtain ⟨hsigned, rfl⟩ := (perform_setSender_eq_ok_iff writable).1 hsender
    have writable' := hsigned.kept.2.2.trans writable
    obtain ⟨hdirected, rfl⟩ := (perform_setRecipients_eq_ok_iff writable').1 hrecipients
    exact ⟨⟨signed, hsigned, hdirected⟩, rfl⟩
  · rintro ⟨⟨signed, hsigned, hdirected⟩, rfl⟩
    have writable' := hsigned.kept.2.2.trans writable
    exact ⟨signed, journal', (perform_setSender_eq_ok_iff writable).2 ⟨hsigned, rfl⟩,
      (perform_setRecipients_eq_ok_iff writable').2 ⟨hdirected, rfl⟩⟩

end

/-! ### Quiet steps -/

/-- A step only does what is quiet, and a run that it ends comes to status 1. -/
def IsQuiet (step : Command α) : Prop :=
  ∀ journal, ∃ events, (perform step journal).2 = journal ++ events ∧
    (∀ event ∈ events, event.IsQuiet) ∧
    ∀ ending, (perform step journal).1 = .error ending → ending.status = 1

theorem isQuiet_pure (a : α) : IsQuiet (pure a : Command α) := fun journal =>
  ⟨[], (List.append_nil journal).symm, nofun, nofun⟩

theorem isQuiet_throw {ending : Ending} (h : ending.status = 1) :
    IsQuiet (throw ending : Command α) := fun journal =>
  ⟨[], (List.append_nil journal).symm, nofun, fun ending' e => by cases e; exact h⟩

theorem isQuiet_note {event : Event} (h : event.IsQuiet) : IsQuiet (note event) := fun _ =>
  ⟨[event], rfl, List.forall_mem_singleton.2 h, nofun⟩

theorem IsQuiet.bind {β : Type} {step : Command α} {next : α → Command β} (h : IsQuiet step)
    (hnext : ∀ a, IsQuiet (next a)) : IsQuiet (step >>= next) := by
  intro journal
  obtain ⟨events, e, quiet, ends⟩ := h journal
  rw [perform_bind]
  rcases hp : perform step journal with ⟨ending | a, journal'⟩ <;> rw [hp] at e ends <;>
    dsimp only at e ends ⊢
  · refine ⟨events, e, quiet, fun ending' h => ends ending' ?_⟩
    cases h
    rfl
  · obtain ⟨more, e', quiet', ends'⟩ := hnext a journal'
    exact ⟨events ++ more, by rw [e', e, List.append_assoc],
      List.forall_mem_append.2 ⟨quiet, quiet'⟩, ends'⟩

theorem isQuiet_orReport (text? : Failure → Option Text) (x : Except Failure α) :
    IsQuiet (orReport text? x) := by
  unfold orReport
  split
  · exact isQuiet_pure _
  split
  · exact (isQuiet_note (.log .error _)).bind fun _ => isQuiet_throw rfl
  · exact isQuiet_throw rfl

/-- Work on a message is quiet if it leaves the journal alone. -/
theorem isQuiet_work {e : Email} {w : Work α}
    (h : ∀ journal, (perform w ⟨e, journal⟩).2.journal = journal) : IsQuiet (work e w) :=
  fun journal => ⟨[], by rw [perform_work, h, List.append_nil], nofun, nofun⟩

theorem isQuiet_load (disk : Disk) (env : Environment) (given : Option Text) :
    IsQuiet (load disk env given) := by
  refine IsQuiet.bind (fun journal => ⟨_, rfl, ?_, nofun⟩) fun _ => isQuiet_orReport _ _
  unfold Config.load
  dsimp only
  split
  · exact nofun
  · exact List.forall_mem_singleton.2 (.log .debug _)

theorem isQuiet_setSender (sender : Text) (e : Email) : IsQuiet (setSender sender e) := by
  unfold setSender
  split
  · exact isQuiet_pure e
  · exact (isQuiet_work fun journal => Work.journal_perform_setSender sender _).bind fun _ =>
      (isQuiet_orReport _ _).bind fun _ => isQuiet_pure _

theorem isQuiet_setRecipients (words : List Text) (e : Email) :
    IsQuiet (setRecipients words e) := by
  refine IsQuiet.bind ?_ fun recipients => ?_
  · induction words with
    | nil => exact isQuiet_pure []
    | cons word words ih =>
      rw [List.mapM_cons]
      exact (isQuiet_orReport _ _).bind fun _ => ih.bind fun _ => isQuiet_pure _
  · split
    · exact isQuiet_pure e
    split
    · exact isQuiet_throw rfl
    · exact (isQuiet_work fun journal => Work.journal_perform_setRecipients _ _).bind fun _ =>
        (isQuiet_orReport _ _).bind fun _ => isQuiet_pure _

theorem isQuiet_address (o : Options) (e : Email) : IsQuiet (address o e) :=
  (isQuiet_setSender o.sender e).bind (isQuiet_setRecipients o.recipients)

end Command

end Mailroom
