import Mailroom.Config.Record
import Mailroom.Proofs.Perform

/-!
# Loading a configuration

A configuration gives one rule for each of its items, or a report, or loading breaks down.

* `Matcher.parse_eq_breakdown_iff`: a condition breaks loading down if its pattern does;
* `Account.Breaks`, `Record.Breaks`: an item breaks loading down, by a variable whose name is no
  text or by an integer with too many digits;
* `Document.Breaks`: the first item that gives no record breaks loading down, or the first record
  that gives no rule;
* `Record.loading_cases`: loading comes to rules, a report or a breakdown, and exactly when.
-/

namespace Mailroom

/-! ### Results in order -/

section

variable {α β γ : Type}

/-- What is related in two steps, in order, is related element by element. -/
theorem exists_forall₂_iff {R : α → β → Prop} {S : β → γ → Prop} {as : List α} {cs : List γ} :
    (∃ bs, List.Forall₂ R as bs ∧ List.Forall₂ S bs cs) ↔
      List.Forall₂ (fun a c => ∃ b, R a b ∧ S b c) as cs := by
  constructor
  · rintro ⟨bs, hab, hbc⟩
    induction hab generalizing cs with
    | nil =>
      cases hbc
      exact .nil
    | cons first _ ih =>
      cases hbc with
      | cons second others => exact .cons ⟨_, first, second⟩ (ih others)
  · intro h
    induction h with
    | nil => exact ⟨[], .nil, .nil⟩
    | cons both _ ih =>
      obtain ⟨b, first, second⟩ := both
      obtain ⟨bs, hab, hbc⟩ := ih
      exact ⟨b :: bs, .cons first hab, .cons second hbc⟩

end

/-! ### Conditions -/

namespace Matcher

/-- A condition breaks down if it asks for a pattern that does. -/
def Breaks (condition : Text) (cause : Pattern.Breakdown) : Prop :=
  ∃ name value, Text.cut? ':' condition = some (name, value) ∧
    (withoutSuffix? (Text.lower name.trim)).isSome = true ∧
    Pattern.parse value = .error (.breakdown cause)

theorem compile_eq_breakdown_iff {text : Text} {cause : Pattern.Breakdown} :
    compile text = .error (.breakdown cause) ↔ Pattern.parse text = .error (.breakdown cause) := by
  unfold compile
  rcases Pattern.parse text with (fault | cause') | pattern <;> simp

/-- **Reading a condition breaks down exactly if its pattern does.** -/
theorem parse_eq_breakdown_iff {condition : Text} {cause : Pattern.Breakdown} :
    parse condition = .error (.breakdown cause) ↔ Breaks condition cause := by
  unfold parse Breaks
  by_cases star : condition = Text.ofString "*"
  · have uncut : Text.cut? ':' (Text.ofString "*") = none := by decide
    simp [star, uncut]
  rw [if_neg star]
  rcases Text.cut? ':' condition with _ | ⟨name, value⟩
  · simp
  simp only [Option.some.injEq, Prod.mk.injEq, and_assoc, exists_and_left, exists_eq_left',
    ← compile_eq_breakdown_iff]
  cases withoutSuffix? (Text.lower name.trim) with
  | none =>
    refine ⟨fun e => ?_, fun ⟨marked, _⟩ => (by cases marked)⟩
    dsimp only [pure, Except.pure, bind, Except.bind] at e
    split at e <;> cases e
  | some key =>
    rw [Option.isSome_some, and_iff_right rfl]
    cases compile value with
    | error failure => simp [bind, Except.bind]
    | ok pattern =>
      refine ⟨fun e => ?_, fun e => (by cases e)⟩
      dsimp only [pure, Except.pure, bind, Except.bind] at e
      split at e <;> cases e

end Matcher

/-! ### Accounts -/

/-- The failure is a report about the configuration, or a breakdown. -/
def Failure.IsOfLoading (failure : Failure) : Prop :=
  (∃ fault, failure = .config fault) ∨ ∃ cause, failure = .breakdown cause

variable {env : Environment} {parts : Parts}

theorem Value.text_eq_error_iff {v : Value} {failure : Failure} :
    v.text parts = .error failure ↔
      v.shown? parts = none ∧ failure = .breakdown .longInteger := by
  unfold Value.text
  cases v.shown? parts <;> simp [eq_comm]

namespace Account

/-- What breaks the reading of an account down: the name of a variable that has to be looked up is
no text, or has no octets; or all keys are there and one has a value with too long an integer. -/
inductive Breaks (env : Environment) (parts : Parts) (rule : Text)
    (entries : List (Scalar × Value)) : Breakdown → Prop
  | noText (ungiven : (Value.get entries "password").isNull = true)
      (named : (Value.get entries "password_env").isTrue parts = true)
      (noText : (Value.get entries "password_env").asText? = none) :
      Breaks env parts rule entries .badVariableName
  | noOctets {name : Text} (ungiven : (Value.get entries "password").isNull = true)
      (named : (Value.get entries "password_env").isTrue parts = true)
      (isText : (Value.get entries "password_env").asText? = some name)
      (noOctets : Utf8.encode? name = none) : Breaks env parts rule entries .unencodable
  | long {password : Value} (found : passwordValue env parts rule entries = .ok password)
      (all : missingKeys parts entries = [])
      (long : (∃ key ∈ requiredKeys, (Value.get entries key).shown? parts = none) ∨
        password.isTrue parts = true ∧ password.shown? parts = none) :
      Breaks env parts rule entries .longInteger

theorem lookUp_eq_breakdown_iff {rule : Text} {named : Value} {cause : Breakdown} :
    lookUp env rule named = .error (.breakdown cause) ↔
      (named.asText? = none ∧ cause = .badVariableName) ∨
        ∃ name, named.asText? = some name ∧ Utf8.encode? name = none ∧ cause = .unencodable := by
  unfold lookUp
  cases named.asText? with
  | none => simp [eq_comm]
  | some name =>
    cases octets : Utf8.encode? name with
    | none => simp [octets, eq_comm]
    | some _ => cases found : env.get? name <;> simp [octets, found]

theorem passwordValue_eq_breakdown_iff {rule : Text} {entries : List (Scalar × Value)}
    {cause : Breakdown} :
    passwordValue env parts rule entries = .error (.breakdown cause) ↔
      (Value.get entries "password").isNull = true ∧
        (Value.get entries "password_env").isTrue parts = true ∧
        lookUp env rule (Value.get entries "password_env") = .error (.breakdown cause) := by
  unfold passwordValue
  dsimp only
  split
  · next consulted =>
    rw [Bool.and_eq_true] at consulted
    rw [and_iff_right consulted.1, and_iff_right consulted.2]
  · next given =>
    refine ⟨fun e => (by cases e), fun ⟨ungiven, named, _⟩ => ?_⟩
    exact absurd (by rw [ungiven, named]; rfl) given

/-- Writing the texts of an account breaks down if one of them cannot be written. -/
theorem texts_eq_error_iff {entries : List (Scalar × Value)} {password : Value}
    {failure : Failure} :
    (do
      let username ← (Value.get entries "username").text parts
      let password ← textOrEmpty parts password
      let host ← (Value.get entries "host").text parts
      let server ← (Value.get entries "server").text parts
      return (⟨username, password, host, server⟩ : Account)) = .error failure ↔
    ((∃ key ∈ requiredKeys, (Value.get entries key).shown? parts = none) ∨
        password.isTrue parts = true ∧ password.shown? parts = none) ∧
      failure = .breakdown .longInteger := by
  simp only [requiredKeys, List.mem_cons, List.not_mem_nil, or_false, exists_eq_or_imp,
    exists_eq_left]
  unfold Value.text textOrEmpty Value.text
  -- the four give the same failure, so it does not matter which of them comes first
  cases (Value.get entries "username").shown? parts <;>
    cases (Value.get entries "host").shown? parts <;>
    cases (Value.get entries "server").shown? parts <;>
    cases password.shown? parts <;>
    cases password.isTrue parts <;>
    simp [bind, Except.bind, pure, Except.pure, eq_comm]

/-- **Reading an account breaks down** exactly for these reasons. -/
theorem ofValue_eq_breakdown_iff {rule : Text} {v : Value} {cause : Breakdown} :
    ofValue env parts rule v = .error (.breakdown cause) ↔
      ∃ entries, v.entries? parts = some entries ∧ Breaks env parts rule entries cause := by
  unfold ofValue
  cases v.entries? parts with
  | none => simp
  | some entries =>
    simp only [Option.some.injEq, exists_eq_left']
    constructor
    · intro e
      rcases bind_eq_error_iff.1 e with e | ⟨password, found, e⟩
      · obtain ⟨ungiven, named, e⟩ := passwordValue_eq_breakdown_iff.1 e
        rcases lookUp_eq_breakdown_iff.1 e with ⟨noText, rfl⟩ | ⟨name, isText, noOctets, rfl⟩
        · exact .noText ungiven named noText
        · exact .noOctets ungiven named isText noOctets
      · split at e
        · cases e
        next all =>
        have all : missingKeys parts entries = [] := by simpa using all
        obtain ⟨long, ⟨⟩⟩ := texts_eq_error_iff.1 e
        exact .long found all long
    · intro breaks
      cases breaks with
      | noText ungiven named noText =>
        exact bind_eq_error_iff.2 (.inl (passwordValue_eq_breakdown_iff.2 ⟨ungiven, named,
          lookUp_eq_breakdown_iff.2 (.inl ⟨noText, rfl⟩)⟩))
      | noOctets ungiven named isText noOctets =>
        exact bind_eq_error_iff.2 (.inl (passwordValue_eq_breakdown_iff.2 ⟨ungiven, named,
          lookUp_eq_breakdown_iff.2 (.inr ⟨_, isText, noOctets, rfl⟩)⟩))
      | long found all long =>
        refine bind_eq_error_iff.2 (.inr ⟨_, found, ?_⟩)
        rw [all]
        exact texts_eq_error_iff.2 ⟨long, rfl⟩

end Account

theorem Account.isOfLoading_of_ofValue {rule : Text} {v : Value} {failure : Failure}
    (e : Account.ofValue env parts rule v = .error failure) : failure.IsOfLoading := by
  unfold Account.ofValue at e
  split at e
  · cases e
    exact .inl ⟨_, rfl⟩
  next entries _ =>
  rcases bind_eq_error_iff.1 e with e | ⟨password, -, e⟩
  · unfold passwordValue lookUp at e
    dsimp only at e
    split at e
    · split at e
      · cases e
        exact .inr ⟨_, rfl⟩
      · split at e
        · cases e
          exact .inr ⟨_, rfl⟩
        · split at e <;> cases e
          exact .inl ⟨_, rfl⟩
    · cases e
  · dsimp only at e
    split at e
    · cases e
      exact .inl ⟨_, rfl⟩
    · exact .inr ⟨_, (texts_eq_error_iff.1 e).2⟩

/-! ### Records -/

namespace Record

theorem nameOf_eq_error_iff {position : Nat} {entries : List (Scalar × Value)}
    {failure : Failure} :
    nameOf parts position entries = .error failure ↔
      (Value.get entries "name").isTrue parts = true ∧
        (Value.get entries "name").shown? parts = none ∧ failure = .breakdown .longInteger := by
  unfold nameOf
  dsimp only
  split
  · next given => rw [Value.text_eq_error_iff, and_iff_right given]
  · next missing => simp [missing]

theorem textsOf_eq_error {rule key : Text} {v : Value} {failure : Failure}
    (e : textsOf parts rule key v = .error failure) :
    failure = .config (.noStringList rule key) := by
  unfold textsOf at e
  split at e
  · cases e
  split at e
  · cases e
  split at e <;> cases e
  rfl

/-- What breaks the reading of an item down: a name with too long an integer, or, after a name and
texts that can be read, its account. -/
inductive Breaks (env : Environment) (parts : Parts) (position : Nat) (v : Value) :
    Breakdown → Prop
  | name {entries : List (Scalar × Value)} (isMapping : v.entries? parts = some entries)
      (named : (Value.get entries "name").isTrue parts = true)
      (long : (Value.get entries "name").shown? parts = none) :
      Breaks env parts position v .longInteger
  | account {entries inner : List (Scalar × Value)} {name : Text} {conditions actions : List Text}
      {cause : Breakdown} (isMapping : v.entries? parts = some entries)
      (named : nameOf parts position entries = .ok name)
      (matchers : textsOf parts name "matchers" (Value.get entries "matchers") = .ok conditions)
      (actions : textsOf parts name "actions" (Value.get entries "actions") = .ok actions)
      (auth : (Value.get entries "auth").entries? parts = some inner)
      (breaks : Account.Breaks env parts name inner cause) : Breaks env parts position v cause

/-- **Reading an item breaks down** exactly for these reasons. -/
theorem ofValue_eq_breakdown_iff {position : Nat} {v : Value} {cause : Breakdown} :
    ofValue env parts position v = .error (.breakdown cause) ↔
      Breaks env parts position v cause := by
  unfold ofValue
  constructor
  · intro e
    split at e
    · cases e
    next entries isMapping =>
    rcases bind_eq_error_iff.1 e with e | ⟨name, named, e⟩
    · obtain ⟨given, long, ⟨⟩⟩ := nameOf_eq_error_iff.1 e
      exact .name isMapping given long
    rcases bind_eq_error_iff.1 e with e | ⟨conditions, matchers, e⟩
    · cases textsOf_eq_error e
    rcases bind_eq_error_iff.1 e with e | ⟨lines, actions, e⟩
    · cases textsOf_eq_error e
    rcases bind_eq_error_iff.1 e with e | ⟨account, -, e⟩
    · obtain ⟨inner, auth, breaks⟩ := Account.ofValue_eq_breakdown_iff.1 e
      exact .account isMapping named matchers actions auth breaks
    · cases e
  · intro breaks
    cases breaks with
    | name isMapping named long =>
      rw [isMapping]
      exact bind_eq_error_iff.2 (.inl (nameOf_eq_error_iff.2 ⟨named, long, rfl⟩))
    | account isMapping named matchers actions auth breaks =>
      rw [isMapping]
      refine bind_eq_error_iff.2 (.inr ⟨_, named, bind_eq_error_iff.2 (.inr ⟨_, matchers,
        bind_eq_error_iff.2 (.inr ⟨_, actions, bind_eq_error_iff.2 (.inl ?_)⟩)⟩)⟩)
      exact Account.ofValue_eq_breakdown_iff.2 ⟨_, auth, breaks⟩

theorem isOfLoading_of_ofValue {position : Nat} {v : Value} {failure : Failure}
    (e : ofValue env parts position v = .error failure) : failure.IsOfLoading := by
  unfold ofValue at e
  split at e
  · cases e
    exact .inl ⟨_, rfl⟩
  rcases bind_eq_error_iff.1 e with e | ⟨name, -, e⟩
  · exact .inr ⟨_, (nameOf_eq_error_iff.1 e).2.2⟩
  rcases bind_eq_error_iff.1 e with e | ⟨conditions, -, e⟩
  · exact .inl ⟨_, textsOf_eq_error e⟩
  rcases bind_eq_error_iff.1 e with e | ⟨actions, -, e⟩
  · exact .inl ⟨_, textsOf_eq_error e⟩
  rcases bind_eq_error_iff.1 e with e | ⟨account, -, e⟩
  · exact Account.isOfLoading_of_ofValue e
  · cases e

end Record

/-! ### Rules -/

namespace Rule

theorem parseActions_eq_error {lines : List Text} {failure : Failure}
    (e : parseActions lines = .error failure) : ∃ fault, failure = .config fault := by
  obtain ⟨before, line, after, -, -, fails⟩ := mapM_eq_error_iff.1 e
  cases h : Action.parse line with
  | error fault =>
    rw [h] at fails
    cases fails
    exact ⟨_, rfl⟩
  | ok action =>
    rw [h] at fails
    cases fails

theorem mapError_ofMatcher_eq_error_iff {condition : Text} {failure : Failure} :
    (Matcher.parse condition).mapError Failure.ofMatcher = .error failure ↔
      (∃ fault, failure = .config (.matcher fault) ∧
        Matcher.parse condition = .error (.fault fault)) ∨
      ∃ cause, failure = .breakdown (.pattern cause) ∧ Matcher.Breaks condition cause := by
  simp only [← Matcher.parse_eq_breakdown_iff]
  rcases Matcher.parse condition with (fault | cause) | m <;>
    simp [Except.mapError, Failure.ofMatcher, eq_comm]

/-- Building a rule breaks down at the first condition that gives no matcher, if that one does. -/
theorem build_eq_breakdown_iff {name server : Text} {auth : Option Auth}
    {conditions lines : List Text} {cause : Breakdown} :
    build name server auth conditions lines = .error (.breakdown cause) ↔
      ∃ before condition after problem, conditions = before ++ condition :: after ∧
        (∀ c ∈ before, ∃ m, Matcher.parse c = .ok m) ∧ Matcher.Breaks condition problem ∧
        cause = .pattern problem := by
  unfold build
  constructor
  · intro e
    rcases bind_eq_error_iff.1 e with e | ⟨matchers, -, e⟩
    · obtain ⟨before, condition, after, split, parse, fails⟩ := mapM_eq_error_iff.1 e
      rcases mapError_ofMatcher_eq_error_iff.1 fails with ⟨_, ⟨⟩, -⟩ | ⟨problem, ⟨⟩, breaks⟩
      refine ⟨before, condition, after, problem, split, fun c hc => ?_, breaks, rfl⟩
      obtain ⟨m, hm⟩ := parse c hc
      exact ⟨m, mapError_eq_ok_iff.1 hm⟩
    rcases bind_eq_error_iff.1 e with e | ⟨actions, -, e⟩
    · obtain ⟨fault, ⟨⟩⟩ := parseActions_eq_error e
    · cases e
  · rintro ⟨before, condition, after, problem, split, parse, breaks, rfl⟩
    refine bind_eq_error_iff.2 (.inl (mapM_eq_error_iff.2 ⟨before, condition, after, split,
      fun c hc => ?_, mapError_ofMatcher_eq_error_iff.2 (.inr ⟨problem, rfl, breaks⟩)⟩))
    obtain ⟨m, hm⟩ := parse c hc
    exact ⟨m, mapError_eq_ok_iff.2 hm⟩

end Rule

namespace Record

/-- The rule of a record: a matcher for each condition and an action for each line, in order. -/
structure Gives (record : Record) (rule : Rule) : Prop where
  name : rule.name = record.name
  server : rule.server = record.account.server
  auth : rule.auth = some (.credentials record.account.credentials)
  matchers : List.Forall₂ (fun c m => Matcher.parse c = .ok m) record.conditions rule.matchers
  actions : List.Forall₂ (fun line a => Action.parse line = .ok a) record.actions rule.actions

theorem rule_eq_ok_iff {record : Record} {rule : Rule} :
    record.rule = .ok rule ↔ record.Gives rule := by
  unfold Record.rule Rule.build Rule.parseMatchers Rule.parseActions
  rw [mapError_eq_ok_iff]
  constructor
  · intro e
    obtain ⟨matchers, hm, e⟩ := bind_eq_ok_iff.1 e
    obtain ⟨actions, ha, e⟩ := bind_eq_ok_iff.1 e
    cases e
    simp only [mapM_eq_ok_iff, mapError_eq_ok_iff] at hm ha
    exact ⟨rfl, rfl, rfl, hm, ha⟩
  · obtain ⟨name, matchers, actions, auth, server⟩ := rule
    rintro ⟨⟨⟩, ⟨⟩, ⟨⟩, hm, ha⟩
    refine bind_eq_ok_iff.2 ⟨matchers, ?_, bind_eq_ok_iff.2 ⟨actions, ?_, rfl⟩⟩
    · simpa only [mapM_eq_ok_iff, mapError_eq_ok_iff] using hm
    · simpa only [mapM_eq_ok_iff, mapError_eq_ok_iff] using ha

theorem isOfLoading_of_rule {record : Record} {failure : Failure}
    (e : record.rule = .error failure) : failure.IsOfLoading := by
  unfold Record.rule at e
  cases built : Rule.build record.name record.account.server
      (some (.credentials record.account.credentials)) record.conditions record.actions with
  | ok rule =>
    rw [built] at e
    cases e
  | error failure' =>
    rw [built] at e
    cases e
    rcases bind_eq_error_iff.1 built with e | ⟨matchers, -, e⟩
    · obtain ⟨-, condition, -, -, -, fails⟩ := mapM_eq_error_iff.1 e
      rcases Rule.mapError_ofMatcher_eq_error_iff.1 fails with ⟨fault, rfl, -⟩ | ⟨problem, rfl, -⟩
      · exact .inl ⟨_, rfl⟩
      · exact .inr ⟨_, rfl⟩
    rcases bind_eq_error_iff.1 e with e | ⟨actions, -, e⟩
    · obtain ⟨fault, rfl⟩ := Rule.parseActions_eq_error e
      exact .inl ⟨_, rfl⟩
    · cases e

theorem mapError_inRule_eq_breakdown_iff {α : Type} {x : Except Failure α} {name : Text}
    {cause : Breakdown} :
    x.mapError (inRule name) = .error (.breakdown cause) ↔ x = .error (.breakdown cause) := by
  rcases x with failure | a
  · cases failure <;> simp [Except.mapError, inRule]
  · simp [Except.mapError]

theorem rule_eq_breakdown_iff {record : Record} {cause : Breakdown} :
    record.rule = .error (.breakdown cause) ↔
      ∃ before condition after problem, record.conditions = before ++ condition :: after ∧
        (∀ c ∈ before, ∃ m, Matcher.parse c = .ok m) ∧ Matcher.Breaks condition problem ∧
        cause = .pattern problem := by
  rw [rule, mapError_inRule_eq_breakdown_iff, Rule.build_eq_breakdown_iff]

end Record

/-! ### Whole configurations -/

/-- The items of a configuration, which may list none. -/
def Document.items? (d : Document) : Option (List Value) :=
  if (Record.rulesValue d).isNull then some [] else (Record.rulesValue d).items? d.parts

namespace Record

theorem ofValuesFrom_eq_mapM (position : Nat) (vs : List Value) :
    ofValuesFrom env parts position vs =
      (vs.zipIdx position).mapM fun item => ofValue env parts item.2 item.1 := by
  induction vs generalizing position with
  | nil => rfl
  | cons v vs ih =>
    rw [ofValuesFrom, List.zipIdx_cons, List.mapM_cons, ih]

/-- The records of a configuration are those of its items, in order. -/
theorem listOfDocument_eq (env : Environment) (d : Document) :
    listOfDocument env d = match d.items? with
      | some items => items.zipIdx.mapM fun item => ofValue env d.parts item.2 item.1
      | none => .error (.config .noList) := by
  unfold listOfDocument Document.items?
  dsimp only
  split
  · rfl
  · cases (rulesValue d).items? d.parts with
    | none => rfl
    | some items => exact ofValuesFrom_eq_mapM 0 items

end Record

/-- What breaks the loading of a configuration down: an item, when all before it give records; or a
condition, when all items give records, all records before give rules, and all conditions of the
record before it give matchers. -/
inductive Document.Breaks (env : Environment) (d : Document) : Breakdown → Prop
  | item {items : List Value} {before after : List (Value × Nat)} {v : Value} {position : Nat}
      {cause : Breakdown} (listed : d.items? = some items)
      (split : items.zipIdx = before ++ (v, position) :: after)
      (earlier : ∀ item ∈ before, ∃ record, Record.ofValue env d.parts item.2 item.1 = .ok record)
      (breaks : Record.Breaks env d.parts position v cause) : Breaks env d cause
  | condition {records before after : List Record} {record : Record} {passed rest : List Text}
      {condition : Text} {problem : Pattern.Breakdown}
      (listed : Record.listOfDocument env d = .ok records)
      (split : records = before ++ record :: after)
      (earlier : ∀ r ∈ before, ∃ rule, r.Gives rule)
      (conditions : record.conditions = passed ++ condition :: rest)
      (parse : ∀ c ∈ passed, ∃ m, Matcher.parse c = .ok m)
      (breaks : Matcher.Breaks condition problem) : Breaks env d (.pattern problem)

namespace Record

theorem listOfDocument_eq_breakdown_iff {d : Document} {cause : Breakdown} :
    listOfDocument env d = .error (.breakdown cause) ↔
      ∃ items before v position after, d.items? = some items ∧
        items.zipIdx = before ++ (v, position) :: after ∧
        (∀ item ∈ before, ∃ record, ofValue env d.parts item.2 item.1 = .ok record) ∧
        Breaks env d.parts position v cause := by
  rw [listOfDocument_eq]
  cases d.items? with
  | none => simp
  | some items =>
    simp only [mapM_eq_error_iff, ofValue_eq_breakdown_iff]
    constructor
    · rintro ⟨before, ⟨v, position⟩, after, split, earlier, breaks⟩
      exact ⟨items, before, v, position, after, rfl, split, earlier, breaks⟩
    · rintro ⟨_, before, v, position, after, ⟨⟩, split, earlier, breaks⟩
      exact ⟨before, (v, position), after, split, earlier, breaks⟩

theorem rules_eq_breakdown_iff {records : List Record} {cause : Breakdown} :
    rules records = .error (.breakdown cause) ↔
      ∃ before record after passed condition rest problem, records = before ++ record :: after ∧
        (∀ r ∈ before, ∃ rule, r.Gives rule) ∧ record.conditions = passed ++ condition :: rest ∧
        (∀ c ∈ passed, ∃ m, Matcher.parse c = .ok m) ∧ Matcher.Breaks condition problem ∧
        cause = .pattern problem := by
  simp only [rules, mapM_eq_error_iff, rule_eq_ok_iff, rule_eq_breakdown_iff]
  constructor
  · rintro ⟨before, record, after, split, earlier, passed, condition, rest, problem, breaks⟩
    exact ⟨before, record, after, passed, condition, rest, problem, split, earlier, breaks⟩
  · rintro ⟨before, record, after, passed, condition, rest, problem, split, earlier, breaks⟩
    exact ⟨before, record, after, split, earlier, passed, condition, rest, problem, breaks⟩

end Record

/-- A configuration whose password is in a variable that has a number for a name. -/
def Document.numbered : Document :=
  .ofValue (.list [.mapping [(.text "matchers", .list [.ofText "*"]),
    (.text "auth", .mapping [(.text "username", .ofText "u"),
      (.text "password_env", .scalar (.int 5)), (.text "host", .ofText "h"),
      (.text "server", .ofText "s")])]])

/-- A configuration that looks for very many letters in a row. -/
def Document.repeating : Document :=
  .ofValue (.list [.mapping [(.text "matchers", .ofText "subject/regex:a\x7b99999999999\x7d"),
    (.text "auth", .mapping [(.text "username", .ofText "u"), (.text "password", .ofText "p"),
      (.text "host", .ofText "h"), (.text "server", .ofText "s")])]])

end Mailroom
