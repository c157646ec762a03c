import Mailroom.Proofs.Command.Delivery
import Mailroom.Proofs.Console.Plain

/-!
# Dry runs

A dry run makes the decision about a message, calls nobody, and prints the decision. The name and
the server of the rule are put into a marked text, which the console reads.

* `Command.decision?`: the decision that a run comes to; `Command.decision?_eq_some_iff`: it is
  that of the stages that the run passes;
* `Command.dryRunText`, `Command.reported`: what is to be printed for a decision, and what a dry
  run makes of it; `Command.reported_iff`: these are the same exactly if the text means nothing to
  the console;
* `Command.perform_steps_of_dry`: the steps of a dry run end with that report;
* `Command.dryRun_reports`: so does the run.
-/

namespace Mailroom

/-- Nothing is printed while the configuration is loaded. -/
theorem Config.printed_load (disk : Disk) (env : Environment) (given : Option Text) :
    (load disk env given).journal.printed = [] := by
  unfold load
  dsimp only
  split <;> rfl

namespace Command

section

variable {disk : Disk} {env : Environment} {input : Octets} {o : Options}
  {words : List Text} {router : Router} {e : Email} {journal : Journal} {d : Decision}

/-! ### The decision -/

/-- The decision that a run comes to, if it gets as far as that. -/
def decision? (disk : Disk) (env : Environment) (input : Octets) (o : Options) :
    Option Decision :=
  match perform (prepare disk env input o) [] with
  | (.ok (router, e), journal) => (perform router.decide ⟨e, journal⟩).1.toOption
  | (.error _, _) => none

/-- The decision of a run that is ready is the one about the header alone. -/
theorem decision?_eq_some_iff_choose : decision? disk env input o = some d ↔
    ∃ router e journal, perform (prepare disk env input o) [] = (.ok (router, e), journal) ∧
      router.choose e.header = .ok d := by
  unfold decision?
  rcases hprepare : perform (prepare disk env input o) [] with ⟨ending | ⟨router, e⟩, journal⟩
  · simp
  obtain ⟨coherent, writable⟩ := isCoherent_of_prepare hprepare
  obtain ⟨d₁, hdecide, -⟩ := router.perform_decide (d := ⟨e, journal⟩) coherent writable
  dsimp only
  rw [hdecide]
  cases chosen : router.choose e.header with
  | error failure => simp [chosen, Except.toOption]
  | ok decision => simp [chosen, Except.toOption]

/-- **The decision that a run comes to** is that of the first rule that accepts the message as the
command line has left it. -/
theorem decision?_eq_some_iff : decision? disk env input o = some d ↔
    ∃ s : Stages, s.Passed disk env input o ∧ s.decision = d := by
  rw [decision?_eq_some_iff_choose]
  constructor
  · rintro ⟨router, e, journal, hprepare, chosen⟩
    obtain ⟨s, passed, -, same⟩ := exists_passed hprepare chosen
    exact ⟨s, passed, same⟩
  · rintro ⟨s, passed, rfl⟩
    obtain ⟨router, journal, hprepare, chosen⟩ := passed.prepares
    exact ⟨router, s.addressed, journal, hprepare, chosen⟩

/-! ### What is printed for it -/

/-- What is to be printed for a decision in a dry run. -/
def dryRunText (d : Decision) : Text :=
  "(dry-run) Rule #" ++ Text.ofNat (d.position + 1) ++ ": " ++ d.rule.name ++ " → " ++
    d.rule.server

/-- The text of a decision is shown as it is exactly if it means nothing to the console. -/
theorem shown_dryRunMarkup_iff :
    Console.shown (dryRunMarkup d) = .ok (dryRunText d) ↔ Console.IsPlain (dryRunText d) := by
  -- behind the styled word both texts go on alike
  let rest : Text := " " ++ d.source ++ " → " ++ d.rule.server
  have markup : dryRunMarkup d = "[dim](dry-run)[/]" ++ rest := by
    simp only [dryRunMarkup, rest, ← List.append_assoc]
    rfl
  have text : dryRunText d = "(dry-run)" ++ rest := by
    simp only [dryRunText, Decision.source, rest, ← List.append_assoc]
    rfl
  rw [markup, text]
  exact Console.shown_dimmed_iff nofun

/-- What a dry run comes to for a decision: how it ends, and what it prints. -/
def reported (d : Decision) : Ending × List Text :=
  match Console.shown (dryRunMarkup d) with
  | .ok line => (.success, [line])
  | .error fault => (.broken (.breakdown (.markup fault)), [])

/-- A decision is reported as it is exactly if its text means nothing to the console. -/
theorem reported_iff : (reported d).1.status = 0 ∧ (reported d).2 = [dryRunText d] ↔
    Console.IsPlain (dryRunText d) := by
  rw [← shown_dryRunMarkup_iff]
  unfold reported
  cases Console.shown (dryRunMarkup d) with
  | error fault => exact ⟨fun h => absurd h.1 Nat.one_ne_zero, nofun⟩
  | ok line =>
    rw [Except.ok.injEq]
    exact ⟨fun h => List.singleton_inj.1 h.2, fun h => ⟨rfl, congrArg ([·]) h⟩⟩

/-! ### The steps of a dry run -/

/-- A message is made ready without anything printed. -/
theorem printed_of_prepare
    (h : perform (prepare disk env input o) [] = (.ok (router, e), journal)) :
    journal.printed = [] := by
  obtain ⟨router', j₁, hload, h⟩ := perform_bind_eq_ok_iff.1 h
  obtain ⟨received, j₂, hreceive, h⟩ := perform_bind_eq_ok_iff.1 h
  obtain ⟨addressed, j₃, haddress, h⟩ := perform_bind_eq_ok_iff.1 h
  cases h
  obtain ⟨-, rfl⟩ := perform_load_eq_ok_iff.1 hload
  obtain ⟨read, rfl⟩ := perform_orReport_eq_ok_iff.1 hreceive
  obtain ⟨-, rfl⟩ := (perform_address_eq_ok_iff (writable_of_readStream read).1).1 haddress
  exact Config.printed_load disk env o.config

/-- What is concluded from a decision in a dry run is its report. -/
theorem perform_conclude_of_dry (quiet : ∀ event ∈ journal, event.IsQuiet)
    (unprinted : journal.printed = []) :
    ∃ result journal', perform (conclude true e (.ok d)) journal = (result, journal') ∧
      (∀ event ∈ journal', event.IsQuiet) ∧ (endingOf result, journal'.printed) = reported d := by
  unfold conclude reported
  rw [perform_bind_ok (perform_orReport_eq_ok_iff.2 ⟨rfl, rfl⟩), if_pos rfl]
  cases Console.shown (dryRunMarkup d) with
  | error fault => exact ⟨_, journal, rfl, quiet, Prod.ext rfl unprinted⟩
  | ok line =>
    refine ⟨_, journal ++ [.print line], rfl,
      List.forall_mem_append.2 ⟨quiet, List.forall_mem_singleton.2 (.print line)⟩, ?_⟩
    rw [Journal.printed_append, unprinted]
    rfl

/-- The steps of a dry run that comes to a decision are quiet, and end with its report. -/
theorem perform_steps_of_dry (server : Smtp.Server) (dry : o.isDryRun = true)
    (decided : decision? disk env input o = some d) :
    ∃ result journal, perform (steps server disk env input o) [] = (result, journal) ∧
      (∀ event ∈ journal, event.IsQuiet) ∧ (endingOf result, journal.printed) = reported d := by
  obtain ⟨router, e, journal, hprepare, chosen⟩ := decision?_eq_some_iff_choose.1 decided
  obtain ⟨coherent, writable⟩ := isCoherent_of_prepare hprepare
  obtain ⟨d₁, hdecide, after⟩ := router.perform_decide (d := ⟨e, journal⟩) coherent writable
  dsimp only at hdecide after
  rw [chosen] at hdecide after
  obtain ⟨desk, hdeliver, delivered⟩ := Router.delivered_of_decided coherent hdecide after
    (Smtp.mailer server .standard) true
  -- carrying the decision out is logged in three records, and nothing is printed for it
  have quiet : ∀ event ∈ desk.journal, event.IsQuiet := by
    rw [delivered.journal]
    refine List.forall_mem_append.2 ⟨isQuiet_of_prepare hprepare, ?_⟩
    simp [Decision.events, Event.IsQuiet.log]
  have unprinted : desk.journal.printed = [] := by
    rw [delivered.journal, Journal.printed_append, printed_of_prepare hprepare]
    rfl
  rw [steps_eq, perform_bind_ok hprepare, dry]
  dsimp only
  rw [relay_eq, perform_bind_ok (perform_work _ _ _), hdeliver]
  exact perform_conclude_of_dry quiet unprinted

/-- What comes of a dry run that has made a decision. -/
structure IsReportOf (d : Decision) (outcome : Outcome) : Prop where
  /-- Nobody is called. -/
  silent : outcome.journal.calls = []
  /-- The decision is printed as the console shows its marked text, and nothing else is; a run
  whose marked text cannot be read breaks down. -/
  shown : (outcome.ending, outcome.journal.printed) = reported d
  /-- The run succeeds and prints the decision as it is exactly if its text means nothing to the
  console. -/
  verbatim_iff : outcome.ending.status = 0 ∧ outcome.journal.printed = [dryRunText d] ↔
    Console.IsPlain (dryRunText d)

end

/-- A disk whose only file lists one rule, for every message, of some name. -/
def ruleNamed (name : Text) : Disk :=
  ⟨fun _ => .ok (Utf8.encodeDropping ("- name: '" ++ name ++ "'\n  matchers: ['*']\n" ++
    "  auth: \x7busername: u, password: p, host: h, server: h\x7d\n")), fun _ => true⟩

/-- The decision for that rule. -/
def decisionNamed (name : Text) : Decision :=
  ⟨⟨name, [.everything], [], some (.credentials ⟨"u", "p", "h", []⟩), "h"⟩, 0⟩

end Command

end Mailroom
