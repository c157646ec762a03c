import Mailroom.Proofs.Command.Stages
import Mailroom.Proofs.Smtp.Envelope

/-!
# One attempt to deliver

Of all stages of a run only the last turns to a server, and it does so once.

* `Console.written_of_writable`, `Console.written_of_unwritable`: what of a run comes to the
  console;
* `Smtp.exists_connect_mem_deliver_iff`, `Smtp.timesSaid_deliver_le_one`,
  `Smtp.result_deliver_eq_ok_iff`: what is said in one attempt;
* `Command.run_cases`: a run calls nobody, or it does what one attempt to send its message does;
* `Command.attemptsOnce_run`: no run makes a second attempt, and its status tells of the first.
-/

namespace Mailroom

/-! ### The console -/

namespace Console

theorem isUnwritable_of_isQuiet {event : Event} (h : event.IsQuiet) :
    isUnwritable event = false := by
  cases h <;> rfl

/-- Nothing but log records is kept back from the console. -/
theorem filterMap_filter_isWritten {α : Type} {pick : Event → Option α}
    (h : ∀ record, pick (.log record) = none) (isVerbose : Bool) (journal : Journal) :
    (journal.filter (isWritten isVerbose)).filterMap pick = journal.filterMap pick := by
  rw [List.filterMap_filter]
  refine List.filterMap_congr fun event _ => ?_
  cases event with
  | log record => simp [h record]
  | call call => rfl
  | dispatch dispatch => rfl
  | print line => rfl

/-- No call to a server is lost on the way to the console. -/
theorem calls_filter_isWritten (isVerbose : Bool) (journal : Journal) :
    Journal.calls (journal.filter (isWritten isVerbose)) = journal.calls :=
  filterMap_filter_isWritten (fun _ => rfl) isVerbose journal

/-- No printed line is lost on the way to the console. -/
theorem printed_filter_isWritten (isVerbose : Bool) (journal : Journal) :
    Journal.printed (journal.filter (isWritten isVerbose)) = journal.printed :=
  filterMap_filter_isWritten (fun _ => rfl) isVerbose journal

/-- A run whose records can be written comes to the console as it is. -/
theorem written_of_writable {isVerbose : Bool} {journal : Journal} (ending : Ending)
    (h : ∀ event ∈ journal, isWritten isVerbose event = true → isUnwritable event = false) :
    written isVerbose ⟨journal, ending⟩ = ⟨journal.filter (isWritten isVerbose), ending⟩ := by
  have none : (journal.filter (isWritten isVerbose)).dropWhile (fun event => !isUnwritable event) =
      [] := by
    rw [List.dropWhile_eq_nil_iff]
    intro event hevent
    obtain ⟨member, hwritten⟩ := List.mem_filter.1 hevent
    rw [h event member hwritten]
    rfl
  unfold written
  dsimp only
  rw [none]

/-- A run that asks for details ends at the first record that cannot be written. -/
theorem written_of_unwritable {before after : Journal} {event : Event} (ending : Ending)
    (writable : ∀ event ∈ before, isUnwritable event = false)
    (unwritable : isUnwritable event = true) :
    written true ⟨before ++ event :: after, ending⟩ =
      ⟨before ++ [event], .broken (.breakdown .unencodable)⟩ := by
  have all : (before ++ event :: after).filter (isWritten true) = before ++ event :: after := by
    refine List.filter_eq_self.2 fun event _ => ?_
    cases event <;> rfl
  have passes : ∀ event ∈ before, (!isUnwritable event) = true := fun event hevent => by
    rw [writable event hevent]
    rfl
  unfold written
  dsimp only
  rw [all, List.dropWhile_append_of_pos passes, List.takeWhile_append_of_pos passes]
  simp [unwritable]

end Console

/-! ### One attempt -/

namespace Smtp

variable (server : Server) (timeout : Timeout) (name : Text) (auth : Option Credentials)
  (sender : Text) (recipients : List Text) (message : Octets)

/-- All that an attempt logs can be written. -/
theorem isUnwritable_of_mem_deliver {event : Event} {auth : Option Auth}
    (h : event ∈ (deliver server timeout name auth sender recipients message).journal) :
    Console.isUnwritable event = false := by
  rcases mem_journal_deliver_cases h with ⟨host, port, call, rfl, -⟩ | ⟨entry, rfl⟩
  · rfl
  · rfl

/-- An attempt connects exactly if the server's name can be read. -/
theorem exists_connect_mem_deliver_iff :
    (∃ call ∈ (deliver server timeout name (auth.map .credentials) sender recipients
        message).journal.calls, call.kind = .connect) ↔
      ∃ address, splitServer name = .ok address := by
  rcases deliver_cases server auth sender recipients message timeout name with
    ⟨fault, split, calls, -⟩ | ⟨host, port, split, ⟨fault, -, calls, -⟩ |
      ⟨-, said, outcome, -, calls, -⟩⟩ <;> rw [calls, split]
  · simp
  · simp [Call.kind]
  · simp [Call.kind]

/-- An attempt says nothing but greetings twice. -/
theorem timesSaid_deliver_le_one {kind : CallKind} (hk : kind ≠ .hello) :
    timesSaid kind (deliver server timeout name (auth.map .credentials) sender recipients
      message).journal.calls ≤ 1 := by
  rcases deliver_cases server auth sender recipients message timeout name with
    ⟨fault, -, calls, -⟩ | ⟨host, port, -, ⟨fault, failed, calls, -⟩ |
      ⟨-, said, outcome, conversed, calls, -⟩⟩ <;> rw [calls]
  · exact Nat.zero_le 1
  · have safe : SafeDelivery server name auth [.connect host port timeout] _ :=
      safeDelivery_of_noConnection failed
    exact safe.once kind hk
  · exact conversed.timesSaid_le_one hk

/-- An attempt succeeds exactly if the message is said and taken and leaving does not fail. -/
theorem result_deliver_eq_ok_iff :
    let d := deliver server timeout name (auth.map .credentials) sender recipients message
    d.result = .ok () ↔ (∃ call ∈ d.journal.calls, call.kind = .mail) ∧
      server.fault? (startsTls d.journal.calls) .mail = none ∧
      server.fault? (startsTls d.journal.calls) .quit = none := by
  intro d
  rcases deliver_cases server auth sender recipients message timeout name with
    ⟨fault, split, calls, result⟩ | ⟨host, port, split, ⟨fault, failed, calls, result⟩ |
      ⟨passed, said, outcome, conversed, calls, result⟩⟩ <;> rw [calls, result]
  · have safe : SafeDelivery server name auth [] (.error (.delivery (.server fault))) :=
      safeDelivery_of_noServer
    exact safe.ok_iff
  · have safe : SafeDelivery server name auth [.connect host port timeout] _ :=
      safeDelivery_of_noConnection failed
    exact safe.ok_iff
  · exact (safeDelivery_of_conversed split passed conversed).ok_iff

end Smtp

namespace Command

/-! ### Handing on -/

/-- What is reported or printed when delivering has come to a result. -/
def conclude (isDryRun : Bool) (email : Email) (result : Except Failure Decision) :
    Command Unit := do
  let decision ← orReport (reportOf (unsentText email)) result
  if isDryRun then
    match Console.shown (dryRunMarkup decision) with
    | .ok line => note (.print line)
    | .error fault => throw (.broken (.breakdown (.markup fault)))
  else note (.log ⟨.debug, some (sentText decision)⟩)

theorem isQuiet_conclude (isDryRun : Bool) (e : Email) (result : Except Failure Decision) :
    IsQuiet (conclude isDryRun e result) := by
  refine (isQuiet_orReport _ _).bind fun decision => ?_
  split
  · split
    · exact isQuiet_note (.print _)
    · exact isQuiet_throw rfl
  · exact isQuiet_note (.log .debug _)

theorem fst_perform_conclude_eq_ok_iff {e : Email} {result : Except Failure Decision}
    {journal : Journal} :
    (perform (conclude false e result) journal).1 = .ok () ↔ ∃ decision, result = .ok decision := by
  cases result with
  | ok decision => exact ⟨fun _ => ⟨decision, rfl⟩, fun _ => rfl⟩
  | error failure =>
    refine ⟨fun h => ?_, nofun⟩
    obtain ⟨decision, _, hreport, -⟩ := perform_bind_eq_ok_iff.1
      (show perform (conclude false e (.error failure)) journal = (.ok (), _) from
        Prod.ext h rfl)
    cases (perform_orReport_eq_ok_iff.1 hreport).1

theorem relay_eq (server : Smtp.Server) (router : Router) (isDryRun : Bool) (e : Email) :
    relay server router isDryRun e =
      work e (router.deliver (Smtp.mailer server .standard) isDryRun) >>=
        fun p => conclude isDryRun p.2 p.1 := rfl

/-! ### Whole runs -/

/-- How a run ends whose steps come to a result. -/
def endingOf : Except Ending Unit → Ending
  | .ok () => .success
  | .error ending => ending

theorem status_endingOf_eq_zero_iff {result : Except Ending Unit}
    (fails : ∀ ending, result = .error ending → ending.status = 1) :
    (endingOf result).status = 0 ↔ result = .ok () := by
  cases result with
  | ok _ => exact ⟨fun _ => rfl, fun _ => rfl⟩
  | error ending =>
    refine ⟨fun h => ?_, nofun⟩
    have := fails ending rfl
    rw [endingOf] at h
    omega

section

variable {server : Smtp.Server} {disk : Disk} {env : Environment} {input : Octets} {o : Options}
  {words : List Text} {router : Router} {e : Email} {journal : Journal}
  {result : Except Ending Unit} {s : Stages}

theorem run_eq (read : Options.read words = some o) (help : o.wantsHelp = false)
    (h : perform (steps server disk env input o) [] = (result, journal)) :
    run server disk env input words = Console.written o.isVerbose ⟨journal, endingOf result⟩ := by
  unfold perform at h
  unfold run
  rw [read]
  dsimp only
  rw [help, if_neg Bool.false_ne_true, h]
  cases result <;> rfl

theorem calls_of_isQuiet (h : ∀ event ∈ journal, event.IsQuiet) : Journal.calls journal = [] := by
  refine List.filterMap_eq_nil_iff.2 fun event hevent => ?_
  cases h event hevent <;> rfl

/-- A quiet run calls nobody, and comes to the console as it is. -/
theorem written_of_isQuiet (isVerbose : Bool) (ending : Ending)
    (h : ∀ event ∈ journal, event.IsQuiet) :
    (Console.written isVerbose ⟨journal, ending⟩).journal.calls = [] ∧
      (Console.written isVerbose ⟨journal, ending⟩).ending = ending := by
  rw [Console.written_of_writable ending fun event hevent _ =>
    Console.isUnwritable_of_isQuiet (h event hevent)]
  exact ⟨(Console.calls_filter_isWritten isVerbose journal).trans (calls_of_isQuiet h), rfl⟩

/-- What a run does to servers: nothing, or just what one attempt to send a message does. -/
inductive Attempts (server : Smtp.Server) (disk : Disk) (env : Environment) (input : Octets)
    (o : Options) (outcome : Outcome) : Prop
  | none (calls : outcome.journal.calls = [])
      (ends : o.isDryRun = true ∨ outcome.ending.status = 1 ∧
        ∀ s dispatch, Stages.Passed s disk env input o → ¬ s.Hands o.isVerbose dispatch)
  | one {s : Stages} {dispatch : Dispatch} (wet : o.isDryRun = false)
      (passed : s.Passed disk env input o) (hands : s.Hands o.isVerbose dispatch)
      (calls : outcome.journal.calls =
        (Smtp.mailer server .standard dispatch).journal.calls)
      (ends : outcome.ending.status = 0 ↔
        (Smtp.mailer server .standard dispatch).result = .ok ())

/-- A run that ends before it delivers calls nobody. -/
theorem attempts_of_prepare_eq_error {ending : Ending} (read : Options.read words = some o)
    (help : o.wantsHelp = false)
    (h : perform (prepare disk env input o) [] = (.error ending, journal)) :
    Attempts server disk env input o (run server disk env input words) := by
  obtain ⟨events, hjournal, quiet, ends⟩ := isQuiet_prepare disk env input o []
  rw [h] at hjournal ends
  obtain rfl : journal = events := hjournal
  have hsteps : perform (steps server disk env input o) [] = (.error ending, journal) := by
    rw [steps_eq]
    exact perform_bind_error h
  rw [run_eq read help hsteps]
  obtain ⟨calls, hending⟩ := written_of_isQuiet o.isVerbose (endingOf (.error ending)) quiet
  refine .none calls (.inr ⟨?_, fun s dispatch passed => ?_⟩)
  · rw [hending]
    exact ends ending rfl
  · obtain ⟨router, journal', hprepare, -⟩ := passed.prepares
    cases h.symm.trans hprepare

/-- After delivering, a run does nothing but what is quiet, and it ends as delivering has. -/
theorem perform_steps_of_deliver {delivered : Except Failure Decision} {d : Desk}
    (hprepare : perform (prepare disk env input o) [] = (.ok (router, e), journal))
    (hdeliver : perform (router.deliver (Smtp.mailer server .standard) o.isDryRun) ⟨e, journal⟩ =
      (delivered, d)) :
    ∃ result after, perform (steps server disk env input o) [] = (result, d.journal ++ after) ∧
      (∀ event ∈ after, event.IsQuiet) ∧ (∀ ending, result = .error ending → ending.status = 1) ∧
      (o.isDryRun = false → (result = .ok () ↔ ∃ decision, delivered = .ok decision)) := by
  obtain ⟨after, hafter, quiet, fails⟩ := isQuiet_conclude o.isDryRun d.email delivered d.journal
  refine ⟨_, after, ?_, quiet, fails, fun wet => ?_⟩
  · rw [steps_eq, perform_bind_ok hprepare]
    dsimp only
    rw [relay_eq, perform_bind_ok (perform_work _ _ _), hdeliver]
    exact Prod.ext rfl hafter
  · rw [wet]
    exact fst_perform_conclude_eq_ok_iff

theorem isQuiet_of_prepare
    (h : perform (prepare disk env input o) [] = (.ok (router, e), journal)) :
    ∀ event ∈ journal, event.IsQuiet := by
  obtain ⟨events, hjournal, quiet, -⟩ := isQuiet_prepare disk env input o []
  rw [h] at hjournal
  obtain rfl : journal = events := hjournal
  exact quiet

/-- A run whose delivery is quiet calls nobody. -/
theorem attempts_of_isQuiet {events : Journal} {delivered : Except Failure Decision} {d : Desk}
    (read : Options.read words = some o) (help : o.wantsHelp = false)
    (hprepare : perform (prepare disk env input o) [] = (.ok (router, e), journal))
    (hdeliver : perform (router.deliver (Smtp.mailer server .standard) o.isDryRun) ⟨e, journal⟩ =
      (delivered, d))
    (hjournal : d.journal = journal ++ events) (quiet : ∀ event ∈ events, event.IsQuiet)
    (held : o.isDryRun = true ∨ (∃ failure, delivered = .error failure) ∧
      ∀ s dispatch, Stages.Passed s disk env input o → ¬ s.Hands o.isVerbose dispatch) :
    Attempts server disk env input o (run server disk env input words) := by
  obtain ⟨result, after, hsteps, quietAfter, fails, ok_iff⟩ :=
    perform_steps_of_deliver hprepare hdeliver
  have all : ∀ event ∈ d.journal ++ after, event.IsQuiet := by
    rw [hjournal]
    simp only [List.forall_mem_append]
    exact ⟨⟨isQuiet_of_prepare hprepare, quiet⟩, quietAfter⟩
  obtain ⟨calls, hending⟩ := written_of_isQuiet o.isVerbose (endingOf result) all
  rw [run_eq read help hsteps]
  refine .none calls ?_
  by_cases dry : o.isDryRun = true
  · exact .inl dry
  · obtain ⟨⟨failure, hfailure⟩, unsent⟩ := held.resolve_left dry
    refine .inr ⟨?_, unsent⟩
    rw [hending]
    cases result with
    | error ending => exact fails ending rfl
    | ok _ =>
      obtain ⟨decision, hdecision⟩ := (ok_iff (by simpa using dry)).1 rfl
      cases hfailure.symm.trans hdecision

/-- A run that comes to a dispatch does what an attempt to send it does, unless what is logged
before cannot be written. -/
theorem attempts_of_dispatch {events : Journal} {dispatch : Dispatch} {text : Option Text}
    {d : Desk} (read : Options.read words = some o) (help : o.wantsHelp = false)
    (wet : o.isDryRun = false)
    (hprepare : perform (prepare disk env input o) [] = (.ok (router, s.addressed), journal))
    (hdeliver : perform (router.deliver (Smtp.mailer server .standard) o.isDryRun)
        ⟨s.addressed, journal⟩ =
      ((Smtp.mailer server .standard dispatch).result.map fun _ => s.decision, d))
    (hjournal : d.journal = journal ++ events ++ .log ⟨.debug, text⟩ :: .dispatch dispatch ::
      (Smtp.mailer server .standard dispatch).journal)
    (quiet : ∀ event ∈ events, event.IsQuiet) (passed : s.Passed disk env input o)
    (sent : s.dispatch? = .ok (dispatch, text)) :
    Attempts server disk env input o (run server disk env input words) := by
  obtain ⟨result, after, hsteps, quietAfter, fails, ok_iff⟩ :=
    perform_steps_of_deliver hprepare hdeliver
  have before : ∀ event ∈ journal ++ events, event.IsQuiet :=
    List.forall_mem_append.2 ⟨isQuiet_of_prepare hprepare, quiet⟩
  rw [run_eq read help hsteps, hjournal, List.append_assoc, List.cons_append]
  -- of all records only the one before the dispatch can lack its text, and it is a detail
  by_cases hidden : o.isVerbose = true ∧ text = none
  · obtain ⟨verbose, rfl⟩ := hidden
    rw [verbose, Console.written_of_unwritable _
      (fun event hevent => Console.isUnwritable_of_isQuiet (before event hevent)) rfl]
    refine .none ?_ (.inr ⟨rfl, fun s' dispatch' passed' => ?_⟩)
    · rw [Journal.calls_append, calls_of_isQuiet before]
      rfl
    · rintro ⟨text, sent', writable⟩
      cases passed.unique passed'
      cases sent.symm.trans sent'
      exact writable verbose rfl
  · have writable : ∀ event ∈ journal ++ events ++ .log ⟨.debug, text⟩ :: (.dispatch dispatch ::
        (Smtp.mailer server .standard dispatch).journal ++ after),
        Console.isWritten o.isVerbose event = true → Console.isUnwritable event = false := by
      intro event hevent
      rcases List.mem_append.1 hevent with h | h
      · exact fun _ => Console.isUnwritable_of_isQuiet (before event h)
      rcases List.mem_cons.1 h with rfl | h
      · intro shown
        cases text with
        | none => exact absurd ⟨by simpa [Console.isWritten] using shown, rfl⟩ hidden
        | some text => rfl
      rcases List.mem_append.1 h with h | h
      · rcases List.mem_cons.1 h with rfl | h
        · exact fun _ => rfl
        · exact fun _ => Smtp.isUnwritable_of_mem_deliver _ _ _ _ _ _ h
      · exact fun _ => Console.isUnwritable_of_isQuiet (quietAfter event h)
    rw [Console.written_of_writable _ writable]
    refine .one wet passed ⟨text, sent, fun verbose none => hidden ⟨verbose, none⟩⟩ ?_ ?_
    · rw [Console.calls_filter_isWritten, Journal.calls_append, calls_of_isQuiet before]
      show Journal.calls ((Smtp.mailer server .standard dispatch).journal ++ after) = _
      rw [Journal.calls_append, calls_of_isQuiet quietAfter, List.append_nil]
    · rw [status_endingOf_eq_zero_iff fails, ok_iff wet]
      cases (Smtp.mailer server .standard dispatch).result with
      | error failure => exact ⟨nofun, nofun⟩
      | ok _ => exact ⟨fun _ => rfl, fun _ => ⟨s.decision, rfl⟩⟩

/-- A run that has come to a decision does what an attempt to send the message does, if it can be
sent and this is no dry run. -/
theorem attempts_of_decided {d : Desk} (read : Options.read words = some o)
    (help : o.wantsHelp = false)
    (hprepare : perform (prepare disk env input o) [] = (.ok (router, s.addressed), journal))
    (passed : s.Passed disk env input o)
    (hdeliver : perform (router.deliver (Smtp.mailer server .standard) o.isDryRun)
        ⟨s.addressed, journal⟩ =
      ((s.decision.routed (Smtp.mailer server .standard) o.isDryRun s.addressed).result, d))
    (hjournal : d.journal = journal ++
      s.decision.events (Smtp.mailer server .standard) o.isDryRun s.addressed) :
    Attempts server disk env input o (run server disk env input words) := by
  unfold Decision.events at hjournal
  unfold Decision.routed at hdeliver
  dsimp only at hdeliver hjournal
  have logged : ∀ event ∈ [Event.log ⟨.debug, some (Router.matchedText s.decision.rule)⟩,
      .log ⟨.debug, some (Router.tryingText (s.addressed.decided s.decision.rule))⟩],
      event.IsQuiet :=
    List.forall_mem_cons.2 ⟨.log _ _, List.forall_mem_singleton.2 (.log _ _)⟩
  by_cases dry : o.isDryRun = true
  · rw [if_pos dry] at hjournal
    exact attempts_of_isQuiet read help hprepare hdeliver hjournal
      (List.forall_mem_append.2 ⟨logged, List.forall_mem_singleton.2 (.log _ _)⟩) (.inl dry)
  rw [if_neg dry] at hdeliver hjournal
  cases sent : s.dispatch? with
  | error failure =>
    rw [Stages.dispatch?, Stages.header] at sent
    rw [sent] at hdeliver hjournal
    refine attempts_of_isQuiet read help hprepare hdeliver hjournal
      (List.forall_mem_append.2 ⟨logged, nofun⟩) (.inr ⟨⟨failure, rfl⟩, ?_⟩)
    rintro s' dispatch passed' ⟨text, sent', -⟩
    cases passed.unique passed'
    cases sent.symm.trans sent'
  | ok x =>
    obtain ⟨dispatch, text⟩ := x
    rw [show Email.dispatch? (s.decision.rule.rewritten s.addressed.header) s.addressed.message
      s.decision.rule.auth s.decision.rule.server = _ from sent] at hdeliver hjournal
    rw [← List.append_assoc] at hjournal
    exact attempts_of_dispatch read help (by simpa using dry) hprepare hdeliver hjournal logged
      passed sent

/-- A run calls nobody, or does what one attempt does. -/
theorem run_cases (server : Smtp.Server) (disk : Disk) (env : Environment) (input : Octets)
    (read : Options.read words = some o) (help : o.wantsHelp = false) :
    Attempts server disk env input o (run server disk env input words) := by
  rcases hprepare : perform (prepare disk env input o) [] with ⟨ending | ⟨router, e⟩, journal⟩
  · exact attempts_of_prepare_eq_error read help hprepare
  -- no view has been kept so far, so the decision is one about the header alone
  obtain ⟨coherent, writable⟩ := isCoherent_of_prepare hprepare
  obtain ⟨d₁, hdecide, after⟩ := router.perform_decide (d := ⟨e, journal⟩) coherent writable
  cases chosen : router.choose e.header with
  | error failure =>
    rw [chosen] at hdecide after
    have unchanged : d₁.journal = journal ++ [] := by
      rw [List.append_nil]
      exact after.journal
    refine attempts_of_isQuiet read help hprepare (perform_bind_error hdecide) unchanged nofun
      (.inr ⟨⟨failure, rfl⟩, ?_⟩)
    intro s dispatch passed
    obtain ⟨router', journal', hprepare', chosen'⟩ := passed.prepares
    cases hprepare.symm.trans hprepare'
    cases chosen.symm.trans chosen'
  | ok decision =>
    rw [chosen] at hdecide after
    obtain ⟨s, passed, rfl, rfl⟩ := exists_passed hprepare chosen
    obtain ⟨d, hdeliver, delivered⟩ := Router.delivered_of_decided coherent hdecide after
      (Smtp.mailer server .standard) o.isDryRun
    exact attempts_of_decided read help hprepare passed hdeliver delivered.journal

/-! ### One attempt at most -/

/-- What a run with some options does to servers, and what its status tells of that. -/
structure AttemptsOnce (server : Smtp.Server) (disk : Disk) (env : Environment) (input : Octets)
    (o : Options) (outcome : Outcome) : Prop where
  /-- Nobody is connected to twice. -/
  connects_once : Smtp.timesSaid .connect outcome.journal.calls ≤ 1
  /-- Nothing is sent twice. -/
  sends_once : Smtp.timesSaid .mail outcome.journal.calls ≤ 1
  /-- Nothing is said in a dry run. -/
  dry_silent : o.isDryRun = true → outcome.journal.calls = []
  /-- A server is connected to exactly if this is no dry run and every stage has been passed: a
  configuration with rules, a message, the words of the command line, a rule that accepts the
  message, and a sender and a recipient in the header that it leaves. -/
  connects_iff : (∃ call ∈ outcome.journal.calls, call.kind = .connect) ↔
    o.isDryRun = false ∧ ∃ s : Stages, s.Passed disk env input o ∧ s.IsSendable o.isVerbose
  /-- The status tells of success exactly if the message has been sent, and neither that nor
  leaving has failed. -/
  succeeds_iff : o.isDryRun = false → (outcome.ending.status = 0 ↔
    (∃ call ∈ outcome.journal.calls, call.kind = .mail) ∧
      server.fault? (Smtp.startsTls outcome.journal.calls) .mail = none ∧
      server.fault? (Smtp.startsTls outcome.journal.calls) .quit = none)
  /-- What is sent is the message that has come in, under its header as the words of the command
  line and the actions of the rule have left it. -/
  sends_wire : ∀ sender recipients message,
    .mail sender recipients message ∈ outcome.journal.calls →
    ∃ s : Stages, s.Passed disk env input o ∧
      Email.octets? s.header s.received.message = .ok message

/-- The dispatch of a run that passes some stages is logged in with credentials. -/
theorem Stages.Passed.exists_mailer_eq (server : Smtp.Server) (passed : s.Passed disk env input o)
    {dispatch : Dispatch} (hands : s.Hands o.isVerbose dispatch) :
    ∃ c : Credentials, Smtp.mailer server .standard dispatch =
      Smtp.deliver server .standard s.decision.rule.server ((some c).map .credentials)
        dispatch.sender dispatch.recipients dispatch.message := by
  obtain ⟨text, sent, -⟩ := hands
  obtain ⟨sender, recipients, -, -, whole⟩ := Email.dispatch?_eq_ok sent
  obtain ⟨before, after, rules, -⟩ := passed.decided
  obtain ⟨c, hc⟩ := Config.exists_credentials passed.loaded (r := s.decision.rule) (by
    rw [rules]
    exact List.mem_append_right before List.mem_cons_self)
  refine ⟨c, ?_⟩
  unfold Smtp.mailer
  rw [whole, hc]
  rfl

/-- A run that calls nobody had nothing to send, or was a dry run, or tells of a failure. -/
theorem AttemptsOnce.of_silent {outcome : Outcome} (calls : outcome.journal.calls = [])
    (ends : o.isDryRun = true ∨ outcome.ending.status = 1 ∧
      ∀ s dispatch, Stages.Passed s disk env input o → ¬ s.Hands o.isVerbose dispatch) :
    AttemptsOnce server disk env input o outcome := by
  -- nobody is called, so there must not have been anything to send either
  have nobody (kind : Smtp.CallKind) : ¬ ∃ call ∈ outcome.journal.calls, call.kind = kind := by
    simp [calls]
  have never (kind : Smtp.CallKind) : Smtp.timesSaid kind outcome.journal.calls ≤ 1 := by
    rw [calls]
    exact Nat.zero_le 1
  constructor
  case connects_once => exact never .connect
  case sends_once => exact never .mail
  case dry_silent => exact fun _ => calls
  case connects_iff =>
    refine ⟨fun h => absurd h (nobody .connect), ?_⟩
    rintro ⟨wet, s, passed, sendable⟩
    obtain ⟨dispatch, hands⟩ := sendable.handed
    obtain ⟨-, unsent⟩ := ends.resolve_left (by simp [wet])
    exact absurd hands (unsent s dispatch passed)
  case succeeds_iff =>
    intro wet
    obtain ⟨failed, -⟩ := ends.resolve_left (by simp [wet])
    constructor
    · intro status
      omega
    · intro h
      exact absurd h.1 (nobody .mail)
  case sends_wire =>
    rw [calls]
    exact nofun

/-- A run that does what one attempt does keeps to what such an attempt keeps to. -/
theorem AttemptsOnce.of_delivery {outcome : Outcome} {dispatch : Dispatch}
    (wet : o.isDryRun = false) (passed : s.Passed disk env input o)
    (hands : s.Hands o.isVerbose dispatch)
    (calls : outcome.journal.calls = (Smtp.mailer server .standard dispatch).journal.calls)
    (ends : outcome.ending.status = 0 ↔ (Smtp.mailer server .standard dispatch).result = .ok ()) :
    AttemptsOnce server disk env input o outcome := by
  -- with credentials, what is said is known call by call, wherever the server fails
  obtain ⟨c, hmailer⟩ := passed.exists_mailer_eq server hands
  rw [hmailer] at calls ends
  constructor
  case connects_once =>
    rw [calls]
    exact Smtp.timesSaid_deliver_le_one _ _ _ _ _ _ _ nofun
  case sends_once =>
    rw [calls]
    exact Smtp.timesSaid_deliver_le_one _ _ _ _ _ _ _ nofun
  case dry_silent => simp [wet]
  case connects_iff =>
    rw [calls, Smtp.exists_connect_mem_deliver_iff, ← Stages.isSendable_iff hands]
    constructor
    · exact fun sendable => ⟨wet, s, passed, sendable⟩
    · rintro ⟨-, s', passed', sendable⟩
      rwa [passed.unique passed']
  case succeeds_iff =>
    intro _
    rw [ends, calls]
    exact Smtp.result_deliver_eq_ok_iff _ _ _ _ _ _ _
  case sends_wire =>
    intro sender recipients message said
    rw [calls] at said
    obtain ⟨text, sent, -⟩ := hands
    obtain ⟨-, -, -, wire, -⟩ := Email.dispatch?_eq_ok sent
    have spoken := Smtp.isUnder_of_mem_calls said rfl
    rw [Smtp.Call.mail.injEq] at spoken
    refine ⟨s, passed, ?_⟩
    rw [spoken.2.2, ← passed.addressed.kept.1]
    exact wire

/-- **No run makes a second attempt to deliver**, and its status tells of the first: whatever the
configuration, the environment, the input and the server. -/
theorem attemptsOnce_run (server : Smtp.Server) (disk : Disk) (env : Environment) (input : Octets)
    {words : List Text} {o : Options} (read : Options.read words = some o)
    (help : o.wantsHelp = false) :
    AttemptsOnce server disk env input o (run server disk env input words) := by
  cases run_cases server disk env input read help with
  | none calls ends => exact .of_silent calls ends
  | one wet passed hands calls ends => exact .of_delivery wet passed hands calls ends

end

/-- A disk whose only file lists one rule, for every message. -/
def oneRule : Disk :=
  ⟨fun _ => .ok (Utf8.encodeDropping ("- name: r\n  matchers: ['*']\n" ++
    "  actions: ['SetHeader Reply-To:\x7b\x7bto\x7d\x7d']\n" ++
    "  auth: \x7busername: u, password: p, host: h, server: h\x7d\n")), fun _ => true⟩

/-- A server that takes every message, over an encrypted connection. -/
def takingServer : Smtp.Server := ⟨["auth", "starttls"], none, [], [], none⟩

/-- A message with a sender from the command line is sent once, under the header that the rule
leaves. -/
theorem oneRule_attemptsOnce :
    let words : List Text := ["-f", "b@c.d"]
    let o : Options := ⟨none, "b@c.d", false, false, false, false, []⟩
    let input := Utf8.encodeDropping "From: a@b.c\nTo: x@y.org\n\nhi\n"
    let outcome := run takingServer oneRule ⟨[]⟩ input words
    Options.read words = some o ∧ o.wantsHelp = false ∧
      AttemptsOnce takingServer oneRule ⟨[]⟩ input o outcome ∧
      (outcome.ending, outcome.journal.calls) = (.success,
        [.connect "h" 25 .standard, .hello, .startTls, .hello, .login "u" "p",
          .mail "b@c.d" ["x@y.org"] (Utf8.encodeDropping
            "From: <b@c.d>\r\nReply-To: x@y.org\r\nTo: <x@y.org>\r\n\r\nhi"), .quit]) := by
  intro words o input outcome
  have read : Options.read words = some o := by decide +kernel
  exact ⟨read, rfl, attemptsOnce_run _ _ _ _ read rfl, by decide +kernel⟩

end Command

end Mailroom
