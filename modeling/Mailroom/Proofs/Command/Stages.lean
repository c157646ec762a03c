import Mailroom.Proofs.Command.Steps
import Mailroom.Proofs.Message.Intake
import Mailroom.Proofs.Routing.Decision

/-!
# The stages of a run

A run of the command goes through stages, each of which can end it: the configuration, the message
that comes in, the words of the command line, and the decision.

* `Config.exists_credentials`: every rule of a configuration has something to log in with;
* `Command.Stages`, `Command.Stages.Passed`: the stages of a run that has not ended early;
* `Command.Stages.IsSendable`: what is left to be asked for before a server is called;
* `Command.prepare`: what a run does before it delivers; `Command.Stages.Passed.prepares` and
  `Command.exists_passed`: a run gets that far exactly if it passes some stages.
-/

namespace Mailroom

/-! ### The rules of a configuration -/

namespace Record

theorem auth_of_rule {record : Record} {r : Rule} (h : record.rule = .ok r) :
    r.auth = some (.credentials record.account.credentials) := by
  obtain ⟨matchers, -, h⟩ := bind_eq_ok_iff.1 (mapError_eq_ok_iff.1 h)
  obtain ⟨actions, -, h⟩ := bind_eq_ok_iff.1 h
  cases h
  rfl

theorem exists_credentials {records : List Record} {rules : List Rule}
    (h : records.mapM rule = .ok rules) {r : Rule} (hr : r ∈ rules) :
    ∃ c, r.auth = some (.credentials c) := by
  obtain ⟨record, -, gives⟩ := exists_of_mem_mapM h hr
  exact ⟨_, auth_of_rule gives⟩

end Record

/-- Every rule of a configuration has credentials. -/
theorem Config.exists_credentials {disk : Disk} {env : Environment} {given : Option Text}
    {config : Config} (h : (load disk env given).result = .ok config) {r : Rule}
    (hr : r ∈ config.rules) : ∃ c, r.auth = some (.credentials c) := by
  unfold load at h
  dsimp only at h
  split at h
  · cases h
  · obtain ⟨rules, hrules, rfl⟩ := map_eq_ok_iff.1 h
    exact Record.exists_credentials hrules hr

namespace Command

/-! ### The stages of a run -/

/-- What a run has come to before it sends: the configuration, the message that has come in, the
same with the words of the command line, and the decision about it. -/
structure Stages where
  config : Config
  received : Email
  addressed : Email
  decision : Decision

namespace Stages

/-- The header that is sent: that of the message after the actions of the rule. -/
def header (s : Stages) : Header := s.decision.rule.rewritten s.addressed.header

/-- What is handed on, and what is logged before. -/
def dispatch? (s : Stages) : Except Failure (Dispatch × Option Text) :=
  Email.dispatch? s.header s.addressed.message s.decision.rule.auth s.decision.rule.server

/-- A run gets through to some stages. -/
structure Passed (s : Stages) (disk : Disk) (env : Environment) (input : Octets) (o : Options) :
    Prop where
  loaded : (Config.load disk env o.config).result = .ok s.config
  some_rule : s.config.rules ≠ []
  received : Email.readStream o.ignoresDots input = .ok s.received
  addressed : IsAddressed o s.received s.addressed
  decided : s.decision.IsFirst s.config.rules s.addressed.header

/-- A dispatch is handed on, as it can be put together and what is logged before, if details are
asked for, can be written. -/
def Hands (s : Stages) (isVerbose : Bool) (dispatch : Dispatch) : Prop :=
  ∃ text, s.dispatch? = .ok (dispatch, text) ∧ (isVerbose = true → text ≠ none)

/-- A message gets as far as a server: it has a sender and a recipient, it can be written, and the
server's name can be read. -/
structure IsSendable (s : Stages) (isVerbose : Bool) : Prop where
  sender : ∃ sender senders, s.header.addresses "from" = .ok (sender :: senders)
  recipients : ∃ recipient more, s.header.addresses "to" = .ok (recipient :: more)
  handed : ∃ dispatch, s.Hands isVerbose dispatch
  server : ∃ address, Smtp.splitServer s.decision.rule.server = .ok address

variable {s s' : Stages} {disk : Disk} {env : Environment} {input : Octets} {o : Options}

theorem Passed.unique (h : s.Passed disk env input o) (h' : s'.Passed disk env input o) :
    s = s' := by
  obtain ⟨config, received, addressed, decision⟩ := s
  obtain ⟨config', received', addressed', decision'⟩ := s'
  obtain ⟨loaded, -, read, words, decided⟩ := h
  obtain ⟨loaded', -, read', words', decided'⟩ := h'
  -- each stage is a function of those before it
  cases loaded.symm.trans loaded'
  cases read.symm.trans read'
  cases words.unique words'
  cases (Router.chooseFrom_zero_eq_ok_iff.2 decided).symm.trans
    (Router.chooseFrom_zero_eq_ok_iff.2 decided')
  rfl

/-- What can be handed on has a sender and a recipient, so only the server is left to be known. -/
theorem isSendable_iff {isVerbose : Bool} {dispatch : Dispatch}
    (hands : s.Hands isVerbose dispatch) :
    s.IsSendable isVerbose ↔ ∃ address, Smtp.splitServer s.decision.rule.server = .ok address := by
  refine ⟨fun h => h.server, fun h => ?_⟩
  have ⟨text, sent, _⟩ := hands
  obtain ⟨sender, recipients, envelope, -⟩ := Email.dispatch?_eq_ok sent
  obtain ⟨senders, primary, cc, bcc, hs, ht, -, -, some_recipient, -⟩ :=
    Email.envelope?_eq_ok_iff.1 envelope
  obtain ⟨recipient, more, rfl⟩ := List.exists_cons_of_ne_nil some_recipient
  exact ⟨⟨sender, senders, hs⟩, ⟨recipient, more, ht⟩, ⟨dispatch, hands⟩, h⟩

end Stages

/-! ### Getting ready -/

section

variable (disk : Disk) (env : Environment) (input : Octets) (o : Options)

/-- What a run does before it delivers. -/
def prepare : Command (Router × Email) := do
  let router ← load disk env o.config
  let received ← receive o.ignoresDots input
  let addressed ← address o received
  return (router, addressed)

theorem steps_eq (server : Smtp.Server) : steps server disk env input o =
    prepare disk env input o >>= fun p => relay server p.1 o.isDryRun p.2 := by
  simp [steps, prepare]

theorem isQuiet_prepare : IsQuiet (prepare disk env input o) :=
  (isQuiet_load disk env o.config).bind fun _ => (isQuiet_orReport _ _).bind fun received =>
    (isQuiet_address o received).bind fun _ => isQuiet_pure _

end

section

variable {disk : Disk} {env : Environment} {input : Octets} {o : Options} {router : Router}
  {e : Email} {journal journal' : Journal}

theorem perform_load_eq_ok_iff {given : Option Text} :
    perform (load disk env given) journal = (.ok router, journal') ↔
      (∃ config, (Config.load disk env given).result = .ok config ∧ config.rules = router.rules) ∧
        journal' = journal ++ (Config.load disk env given).journal := by
  have some_rules (rules : List Rule) :
      Router.ofRules rules = .ok router ↔ rules = router.rules := by
    obtain ⟨first, more⟩ := router
    cases rules with
    | nil => exact ⟨nofun, nofun⟩
    | cons rule rules => simp [Router.ofRules, Router.rules]
  unfold load
  rw [perform_bind_ok (perform_modify _ _), perform_orReport_eq_ok_iff]
  refine and_congr_left fun _ => ?_
  rw [show Except.bind _ _ = (Config.load disk env given).result >>=
    fun config => Router.ofRules config.rules from rfl, bind_eq_ok_iff]
  exact exists_congr fun config => and_congr_right fun _ => some_rules config.rules

/-- A message that comes in may be changed, and no view of it has been kept. -/
theorem writable_of_readStream {ignoreDots : Bool} (h : Email.readStream ignoreDots input = .ok e) :
    e.header.isReadOnly = false ∧ e.kept = none := by
  refine ⟨(Email.isClean_read h).2.1, ?_⟩
  obtain ⟨lines, header, -, -, rfl, -⟩ := Email.read_eq_ok h
  rfl

/-- A run gets ready to deliver exactly the message that has come in, with the words of the command
line, by the rules of its configuration. -/
theorem perform_prepare_eq_ok_iff :
    (∃ journal', perform (prepare disk env input o) journal = (.ok (router, e), journal')) ↔
      ∃ config received, (Config.load disk env o.config).result = .ok config ∧
        config.rules = router.rules ∧ Email.readStream o.ignoresDots input = .ok received ∧
        IsAddressed o received e := by
  unfold prepare
  constructor
  · rintro ⟨journal', h⟩
    obtain ⟨router', j₁, hload, h⟩ := perform_bind_eq_ok_iff.1 h
    obtain ⟨received, j₂, hreceive, h⟩ := perform_bind_eq_ok_iff.1 h
    obtain ⟨addressed, j₃, haddress, h⟩ := perform_bind_eq_ok_iff.1 h
    cases h
    obtain ⟨⟨config, loaded, rules⟩, -⟩ := perform_load_eq_ok_iff.1 hload
    obtain ⟨read, -⟩ := perform_orReport_eq_ok_iff.1 hreceive
    obtain ⟨words, -⟩ :=
      (perform_address_eq_ok_iff (writable_of_readStream read).1).1 haddress
    exact ⟨config, received, loaded, rules, read, words⟩
  · rintro ⟨config, received, loaded, rules, read, words⟩
    refine ⟨_, perform_bind_eq_ok_iff.2 ⟨router, _, perform_load_eq_ok_iff.2
      ⟨⟨config, loaded, rules⟩, rfl⟩, perform_bind_eq_ok_iff.2 ⟨received, _,
        perform_orReport_eq_ok_iff.2 ⟨read, rfl⟩, perform_bind_eq_ok_iff.2 ⟨e, _,
          (perform_address_eq_ok_iff (writable_of_readStream read).1).2 ⟨words, rfl⟩, rfl⟩⟩⟩⟩

/-- A message that a run is ready to deliver may be changed, and no stale view of it is kept. -/
theorem isCoherent_of_prepare
    (h : perform (prepare disk env input o) journal = (.ok (router, e), journal')) :
    e.IsCoherent ∧ e.header.isReadOnly = false := by
  obtain ⟨config, received, -, -, read, words⟩ := perform_prepare_eq_ok_iff.1 ⟨journal', h⟩
  obtain ⟨writable, none⟩ := writable_of_readStream read
  obtain ⟨-, kept, closed⟩ := words.kept
  exact ⟨Email.isCoherent_of_kept_eq_none (kept.trans none), closed.trans writable⟩

/-- A run that passes some stages gets ready to deliver their message, about which their decision
is made. -/
theorem Stages.Passed.prepares {s : Stages} (h : s.Passed disk env input o) :
    ∃ router journal', perform (prepare disk env input o) journal =
        (.ok (router, s.addressed), journal') ∧
      router.choose s.addressed.header = .ok s.decision := by
  obtain ⟨first, more, rules⟩ := List.exists_cons_of_ne_nil h.some_rule
  obtain ⟨journal', hprepare⟩ := perform_prepare_eq_ok_iff.2
    ⟨s.config, s.received, h.loaded, (show s.config.rules = Router.rules ⟨first, more⟩ from rules),
      h.received, h.addressed⟩
  refine ⟨_, journal', hprepare, ?_⟩
  rw [Router.choose, show Router.rules ⟨first, more⟩ = s.config.rules from rules.symm]
  exact Router.chooseFrom_zero_eq_ok_iff.2 h.decided

/-- A run that is ready, and about whose message a decision is made, has passed some stages. -/
theorem exists_passed {decision : Decision}
    (h : perform (prepare disk env input o) journal = (.ok (router, e), journal'))
    (chosen : router.choose e.header = .ok decision) :
    ∃ s : Stages, s.Passed disk env input o ∧ s.addressed = e ∧ s.decision = decision := by
  obtain ⟨config, received, loaded, rules, read, words⟩ :=
    perform_prepare_eq_ok_iff.1 ⟨journal', h⟩
  refine ⟨⟨config, received, e, decision⟩, ⟨loaded, ?_, read, words, ?_⟩, rfl, rfl⟩
  · rw [rules]
    exact List.cons_ne_nil _ _
  · rw [rules]
    exact Router.chooseFrom_zero_eq_ok_iff.1 chosen

end

end Command

end Mailroom
