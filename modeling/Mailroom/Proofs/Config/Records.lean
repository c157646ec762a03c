import Mailroom.Proofs.Config.Loading

/-!
# The records of a configuration

All items of a configuration give records, or none does.

* `Account.IsRead`, `Record.IsRead`: the account and the record that an item stands for;
* `Account.IsSound`, `Record.IsSound`: the items that have all that they need;
* `Account.IsWritable`, `Record.IsWritable`: the items that hold no integer with too many digits and
  name no variable that cannot be looked up;
* `Value.eq_text_nil_of_shown`: of the values that count as empty only a text is shown as nothing;
* `Record.IsAllOrNothing`, `Record.loads_all_or_nothing`: when there are records, which, and which
  passwords are dropped.
-/

namespace Mailroom

variable {env : Environment} {parts : Parts}

/-! ### Values -/

namespace Value

theorem isNull_iff {v : Value} : v.isNull = true ↔ v = .scalar .null := by
  unfold isNull
  split <;> simp_all

theorem asText?_eq_some_iff {v : Value} {t : Text} : v.asText? = some t ↔ v = .ofText t := by
  unfold asText? ofText
  split <;> simp_all

theorem isTrue_scalar (s : Scalar) : (scalar s).isTrue parts = s.isTrue := rfl

theorem isTrue_ofText_iff {t : Text} : (ofText t).isTrue parts = true ↔ t ≠ [] := by
  simp [ofText, isTrue_scalar, Scalar.isTrue]

theorem isNull_eq_false_of_isTrue {v : Value} (h : v.isTrue parts = true) : v.isNull = false := by
  unfold isNull
  split
  · cases h
  · rfl

theorem text_eq_ok_iff {v : Value} {t : Text} :
    v.text parts = .ok t ↔ v.shown? parts = some t := by
  unfold text
  cases v.shown? parts <;> simp

theorem Scalar.quoted?_ne_nil {s : Scalar} (empty : s.isTrue = false) : s.quoted? ≠ some [] := by
  cases s with
  | null => decide
  | bool b =>
    obtain rfl : b = false := by simpa [Scalar.isTrue] using empty
    decide
  | int n =>
    obtain rfl : n = 0 := by simpa [Scalar.isTrue] using empty
    decide
  | real x =>
    cases x with
    | finite negative m e =>
      obtain rfl : m = 0 := by simpa [Scalar.isTrue, Double.isZero] using empty
      simp only [Scalar.quoted?, Double.shown, if_true]
      cases negative <;> decide
    | infinite negative => cases empty
    | undefined => cases empty
  | text t =>
    obtain rfl : t = [] := by simpa [Scalar.isTrue] using empty
    decide
  | octets bytes =>
    obtain rfl : bytes = [] := by simpa [Scalar.isTrue] using empty
    decide
  | date d => cases empty
  | moment m => cases empty

/-- Where collections are written, none is written as nothing. -/
theorem quotedWith?_ne_nil {part? : Nat → Option Text} {v : Value} (whole : v.opened parts = v)
    (empty : v.isTrue parts = false) : quotedWith? part? v ≠ some [] := by
  unfold isTrue at empty
  rw [whole] at empty
  cases v with
  | scalar s => exact Scalar.quoted?_ne_nil empty
  | list items =>
    obtain rfl : items = [] := by simpa using empty
    rw [quotedWith?, quotedItems?]
    decide
  | pairs items =>
    obtain rfl : items = [] := by simpa using empty
    rw [quotedWith?, quotedPairs?]
    decide
  | mapping entries =>
    obtain rfl : entries = [] := by simpa using empty
    rw [quotedWith?, quotedEntries?]
    decide
  | members items =>
    obtain rfl : items = [] := by simpa using empty
    rw [quotedWith?]
    decide
  | part number => cases empty

/-- Of the values that are missing, zero or empty, only the empty text is shown as nothing. -/
theorem eq_text_nil_of_shown {v : Value} (empty : v.isTrue parts = false)
    (shown : v.shown? parts = some []) : v = .ofText [] := by
  cases v with
  | scalar s =>
    cases s with
    | text t =>
      cases shown
      rfl
    | date d => cases empty
    | moment m => cases empty
    | _ =>
      rw [isTrue_scalar] at empty
      exact absurd shown (Scalar.quoted?_ne_nil empty)
  | part number =>
    -- a numbered collection is shown as what it is, which is no numbered one again
    change quotedWith? (quotedPart? parts parts.size [number]) ((part number).opened parts) = some []
      at shown
    have whole : ((part number).opened parts).opened parts = (part number).opened parts := by
      unfold isTrue at empty
      cases h : (part number).opened parts with
      | part number' =>
        rw [h] at empty
        cases empty
      | _ => rfl
    refine absurd shown (quotedWith?_ne_nil whole ?_)
    unfold isTrue
    rw [whole]
    exact empty
  | _ => exact absurd shown (quotedWith?_ne_nil rfl empty)

end Value

/-- The texts that a value stands for: none if it is missing, or the one that it is, or those that
it lists. -/
inductive StandsFor (parts : Parts) : Value → List Text → Prop
  | missing : StandsFor parts (.scalar .null) []
  | lone (t : Text) : StandsFor parts (.ofText t) [t]
  | listed {v : Value} {ts : List Text} (isList : v.items? parts = some (ts.map .ofText)) :
      StandsFor parts v ts

theorem mapM_asText?_eq_some_iff {items : List Value} {ts : List Text} :
    items.mapM Value.asText? = some ts ↔ items = ts.map .ofText := by
  induction items generalizing ts with
  | nil => cases ts <;> simp
  | cons v items ih =>
    rw [List.mapM_cons]
    simp only [bind, pure, Option.bind_eq_some_iff, Option.some.injEq, Value.asText?_eq_some_iff, ih]
    cases ts with
    | nil => simp
    | cons t ts => simp [and_comm]

theorem Record.textsOf_eq_ok_iff {rule key : Text} {v : Value} {ts : List Text} :
    textsOf parts rule key v = .ok ts ↔ StandsFor parts v ts := by
  constructor
  · intro h
    unfold textsOf at h
    split at h
    · next missing =>
      cases h
      rw [Value.isNull_iff.1 missing]
      exact .missing
    split at h
    · next t isText =>
      cases h
      rw [Value.asText?_eq_some_iff.1 isText]
      exact .lone t
    split at h
    · next listed =>
      cases h
      obtain ⟨items, isList, texts⟩ := Option.bind_eq_some_iff.1 listed
      exact .listed (by rw [isList, mapM_asText?_eq_some_iff.1 texts])
    · cases h
  · intro h
    cases h with
    | missing => rfl
    | lone t => rfl
    | listed isList =>
      have given : v.isNull = false := by
        by_contra missing
        cases Value.isNull_iff.1 (by simpa using missing)
        cases isList
      have noText : v.asText? = none := by
        refine Option.eq_none_iff_forall_ne_some.2 fun t isText => ?_
        rw [Value.asText?_eq_some_iff.1 isText] at isList
        cases isList
      have texts : (ts.map Value.ofText).mapM Value.asText? = some ts :=
        mapM_asText?_eq_some_iff.2 rfl
      simp [textsOf, given, noText, isList, texts]

/-! ### Accounts -/

namespace Account

/-- The password of an account: the text of a value that is given, unless that counts as empty; or
the value of a variable; or none. -/
inductive IsPassword (env : Environment) (parts : Parts) (entries : List (Scalar × Value)) :
    Text → Prop
  | written {t : Text} (given : (Value.get entries "password").isTrue parts = true)
      (shown : (Value.get entries "password").shown? parts = some t) : IsPassword env parts entries t
  | dropped (given : (Value.get entries "password").isNull = false)
      (empty : (Value.get entries "password").isTrue parts = false) :
      IsPassword env parts entries []
  | found {name value : Text} (ungiven : (Value.get entries "password").isNull = true)
      (named : Value.get entries "password_env" = .ofText name) (nonempty : name ≠ [])
      (isSet : env.get? name = some value) : IsPassword env parts entries value
  | none (ungiven : (Value.get entries "password").isNull = true)
      (unnamed : (Value.get entries "password_env").isTrue parts = false) :
      IsPassword env parts entries []

theorem lookUp_eq_ok_iff {rule : Text} {named v : Value} :
    lookUp env rule named = .ok v ↔
      ∃ name value, named = .ofText name ∧ env.get? name = some value ∧ v = .ofText value := by
  unfold lookUp
  cases isText : named.asText? with
  | none =>
    refine ⟨nofun, ?_⟩
    rintro ⟨name, value, rfl, -⟩
    cases isText
  | some name =>
    cases Value.asText?_eq_some_iff.1 isText
    cases octets : Utf8.encode? name with
    | none =>
      have unset : env.get? name = none := by rw [Environment.get?, octets]; rfl
      simp [octets, Value.ofText, unset]
    | some _ => cases found : env.get? name <;> simp [octets, found, Value.ofText, eq_comm]

theorem textOrEmpty_eq_ok_iff {v : Value} {t : Text} :
    textOrEmpty parts v = .ok t ↔ v.isTrue parts = true ∧ v.shown? parts = some t ∨
      v.isTrue parts = false ∧ t = [] := by
  unfold textOrEmpty
  cases v.isTrue parts with
  | true => simp [Value.text_eq_ok_iff]
  | false => simp [eq_comm]

/-- The password that is looked up and written is that of the account. -/
theorem password_iff {rule t : Text} {entries : List (Scalar × Value)} :
    (∃ v, passwordValue env parts rule entries = .ok v ∧ textOrEmpty parts v = .ok t) ↔
      IsPassword env parts entries t := by
  simp only [textOrEmpty_eq_ok_iff]
  unfold passwordValue
  constructor
  · rintro ⟨v, looked, written⟩
    dsimp only at looked
    split at looked
    · next consulted =>
      rw [Bool.and_eq_true] at consulted
      obtain ⟨name, value, named, isSet, rfl⟩ := lookUp_eq_ok_iff.1 looked
      have nonempty : name ≠ [] := by
        rw [named, Value.isTrue_ofText_iff] at consulted
        exact consulted.2
      rcases written with ⟨-, shown⟩ | ⟨empty, rfl⟩
      · cases shown
        exact .found consulted.1 named nonempty isSet
      · obtain rfl : value = [] := by
          by_contra nonempty
          cases empty.symm.trans (Value.isTrue_ofText_iff.2 nonempty)
        exact .found consulted.1 named nonempty isSet
    · next unconsulted =>
      cases looked
      rcases written with ⟨given, shown⟩ | ⟨empty, rfl⟩
      · exact .written given shown
      · cases given : (Value.get entries "password").isNull with
        | false => exact .dropped given empty
        | true => exact .none given (by simpa [given] using unconsulted)
  · intro h
    cases h with
    | written given shown =>
      refine ⟨_, if_neg ?_, .inl ⟨given, shown⟩⟩
      rw [Value.isNull_eq_false_of_isTrue given]
      exact Bool.false_ne_true
    | dropped given empty =>
      refine ⟨_, if_neg ?_, .inr ⟨empty, rfl⟩⟩
      rw [given]
      exact Bool.false_ne_true
    | @found name _ ungiven named nonempty isSet =>
      refine ⟨.ofText t, ?_, ?_⟩
      · dsimp only
        rw [named, ungiven, Value.isTrue_ofText_iff.2 nonempty]
        exact lookUp_eq_ok_iff.2 ⟨name, t, rfl, isSet, rfl⟩
      · by_cases filled : t = []
        · subst filled
          exact .inr ⟨rfl, rfl⟩
        · exact .inl ⟨Value.isTrue_ofText_iff.2 filled, rfl⟩
    | none ungiven unnamed =>
      refine ⟨_, if_neg ?_, .inr ⟨?_, rfl⟩⟩
      · rw [ungiven, unnamed]
        exact Bool.false_ne_true
      · rw [Value.isNull_iff.1 ungiven]
        rfl

/-- The account that a mapping stands for. -/
structure IsRead (env : Environment) (parts : Parts) (entries : List (Scalar × Value))
    (a : Account) : Prop where
  filled : ∀ key ∈ requiredKeys, (Value.get entries key).isTrue parts = true
  username : (Value.get entries "username").shown? parts = some a.username
  password : IsPassword env parts entries a.password
  host : (Value.get entries "host").shown? parts = some a.host
  server : (Value.get entries "server").shown? parts = some a.server

theorem missingKeys_eq_nil_iff {entries : List (Scalar × Value)} :
    missingKeys parts entries = [] ↔
      ∀ key ∈ requiredKeys, (Value.get entries key).isTrue parts = true := by
  simp [missingKeys, List.filter_eq_nil_iff]

theorem ofValue_eq_ok_iff {rule : Text} {v : Value} {a : Account} :
    ofValue env parts rule v = .ok a ↔
      ∃ entries, v.entries? parts = some entries ∧ a.IsRead env parts entries := by
  unfold ofValue
  cases v.entries? parts with
  | none => simp
  | some entries =>
    simp only [Option.some.injEq, exists_eq_left', bind_eq_ok_iff]
    constructor
    · rintro ⟨v, looked, e⟩
      split at e
      · cases e
      next all =>
      simp only [bind_eq_ok_iff, Value.text_eq_ok_iff] at e
      obtain ⟨username, shown, password, written, host, shown', server, shown'', ⟨⟩⟩ := e
      exact ⟨missingKeys_eq_nil_iff.1 (by simpa using all), shown,
        password_iff.1 ⟨v, looked, written⟩, shown', shown''⟩
    · rintro ⟨filled, username, password, host, server⟩
      obtain ⟨v, looked, written⟩ := password_iff.2 password
      refine ⟨v, looked, ?_⟩
      rw [missingKeys_eq_nil_iff.2 filled, if_neg (by simp)]
      simp only [bind_eq_ok_iff, Value.text_eq_ok_iff]
      exact ⟨_, username, _, written, _, host, _, server, rfl⟩

/-- A mapping has all that an account needs. -/
structure IsSound (env : Environment) (parts : Parts) (entries : List (Scalar × Value)) :
    Prop where
  filled : ∀ key ∈ requiredKeys, (Value.get entries key).isTrue parts = true
  found : (Value.get entries "password").isNull = true →
    ∀ name, Value.get entries "password_env" = .ofText name → name ≠ [] →
    ∃ value, env.get? name = some value

/-- All that a mapping has for an account can be written, and a variable can be looked up. -/
structure IsWritable (parts : Parts) (entries : List (Scalar × Value)) : Prop where
  texts : ∀ key ∈ requiredKeys, ((Value.get entries key).shown? parts).isSome = true
  password : ((Value.get entries "password").shown? parts).isSome = true
  variableName : (Value.get entries "password_env").isNull = true ∨
    ∃ name, Value.get entries "password_env" = .ofText name ∧ (Utf8.encode? name).isSome = true

variable {entries : List (Scalar × Value)}

/-- Of what can be written, an account is read exactly if it has all it needs. -/
theorem exists_isRead_iff (writable : IsWritable parts entries) :
    (∃ a : Account, a.IsRead env parts entries) ↔ IsSound env parts entries := by
  constructor
  · rintro ⟨⟨_, _, _, _⟩, filled, -, password, -, -⟩
    refine ⟨filled, fun ungiven name named nonempty => ?_⟩
    cases password with
    | written given => cases ungiven.symm.trans (Value.isNull_eq_false_of_isTrue given)
    | dropped given => cases ungiven.symm.trans given
    | found _ named' _ isSet =>
      cases named.symm.trans named'
      exact ⟨_, isSet⟩
    | none _ unnamed =>
      rw [named] at unnamed
      cases unnamed.symm.trans (Value.isTrue_ofText_iff.2 nonempty)
  · rintro ⟨filled, found⟩
    have text (key : Text) (required : key ∈ requiredKeys) :
        ∃ t, (Value.get entries key).shown? parts = some t :=
      Option.isSome_iff_exists.1 (writable.texts key required)
    have password : ∃ t, IsPassword env parts entries t := by
      cases ungiven : (Value.get entries "password").isNull with
      | false =>
        cases given : (Value.get entries "password").isTrue parts with
        | true =>
          obtain ⟨t, shown⟩ := Option.isSome_iff_exists.1 writable.password
          exact ⟨t, .written given shown⟩
        | false => exact ⟨[], .dropped ungiven given⟩
      | true =>
        cases unnamed : (Value.get entries "password_env").isTrue parts with
        | false => exact ⟨[], .none ungiven unnamed⟩
        | true =>
          rcases writable.variableName with missing | ⟨name, named, -⟩
          · cases missing.symm.trans (Value.isNull_eq_false_of_isTrue unnamed)
          · have nonempty : name ≠ [] := by
              rwa [named, Value.isTrue_ofText_iff] at unnamed
            obtain ⟨value, isSet⟩ := found ungiven name named nonempty
            exact ⟨value, .found ungiven named nonempty isSet⟩
    obtain ⟨username, hu⟩ := text "username" (by decide)
    obtain ⟨host, hh⟩ := text "host" (by decide)
    obtain ⟨server, hs⟩ := text "server" (by decide)
    obtain ⟨password, hp⟩ := password
    exact ⟨⟨username, password, host, server⟩, filled, hu, hp, hh, hs⟩

/-- What can be written does not break the reading of an account down. -/
theorem not_breaks_of_isWritable (writable : IsWritable parts entries) {rule : Text}
    {cause : Breakdown} : ¬ Breaks env parts rule entries cause := by
  rintro (⟨-, named, noText⟩ | ⟨-, named, isText, noOctets⟩ | ⟨found, -, long⟩)
  · rcases writable.variableName with missing | ⟨name, isText, -⟩
    · cases missing.symm.trans (Value.isNull_eq_false_of_isTrue named)
    · rw [isText] at noText
      cases noText
  · rcases writable.variableName with missing | ⟨name, isText', octets⟩
    · cases missing.symm.trans (Value.isNull_eq_false_of_isTrue named)
    · rw [isText'] at isText
      cases isText
      rw [noOctets] at octets
      cases octets
  · rcases long with ⟨key, required, long⟩ | ⟨filled, long⟩
    · have := writable.texts key required
      rw [long] at this
      cases this
    · unfold passwordValue at found
      dsimp only at found
      split at found
      · obtain ⟨name, value, -, -, rfl⟩ := lookUp_eq_ok_iff.1 found
        cases long
      · cases found
        have := writable.password
        rw [long] at this
        cases this

end Account

/-! ### Records -/

namespace Record

/-- The record that an item at a position stands for. -/
inductive IsRead (env : Environment) (parts : Parts) (position : Nat) (v : Value) : Record → Prop
  | intro {entries inner : List (Scalar × Value)} {record : Record}
      (isMapping : v.entries? parts = some entries)
      (name : (Value.get entries "name").isTrue parts = true ∧
          (Value.get entries "name").shown? parts = some record.name ∨
        (Value.get entries "name").isTrue parts = false ∧ record.name = usualName position)
      (conditions : StandsFor parts (Value.get entries "matchers") record.conditions)
      (actions : StandsFor parts (Value.get entries "actions") record.actions)
      (auth : (Value.get entries "auth").entries? parts = some inner)
      (account : record.account.IsRead env parts inner) : IsRead env parts position v record

/-- An item has all that a record needs. -/
inductive IsSound (env : Environment) (parts : Parts) (v : Value) : Prop
  | intro {entries inner : List (Scalar × Value)} {conditions actions : List Text}
      (isMapping : v.entries? parts = some entries)
      (conditions : StandsFor parts (Value.get entries "matchers") conditions)
      (actions : StandsFor parts (Value.get entries "actions") actions)
      (auth : (Value.get entries "auth").entries? parts = some inner)
      (account : Account.IsSound env parts inner) : IsSound env parts v

/-- All that an item has for a record can be written, and a variable can be looked up. -/
structure IsWritable (parts : Parts) (v : Value) : Prop where
  name : ∀ entries, v.entries? parts = some entries →
    ((Value.get entries "name").shown? parts).isSome = true
  account : ∀ entries inner, v.entries? parts = some entries →
    (Value.get entries "auth").entries? parts = some inner → Account.IsWritable parts inner

variable {position : Nat} {v : Value}

theorem nameOf_eq_ok_iff {entries : List (Scalar × Value)} {t : Text} :
    nameOf parts position entries = .ok t ↔
      (Value.get entries "name").isTrue parts = true ∧
          (Value.get entries "name").shown? parts = some t ∨
        (Value.get entries "name").isTrue parts = false ∧ t = usualName position := by
  unfold nameOf
  dsimp only
  cases (Value.get entries "name").isTrue parts with
  | true => simp [Value.text_eq_ok_iff]
  | false => simp [eq_comm]

theorem ofValue_eq_ok_iff {record : Record} :
    ofValue env parts position v = .ok record ↔ record.IsRead env parts position v := by
  unfold ofValue
  constructor
  · intro e
    split at e
    · cases e
    next entries isMapping =>
    simp only [bind_eq_ok_iff, nameOf_eq_ok_iff, textsOf_eq_ok_iff, Account.ofValue_eq_ok_iff] at e
    obtain ⟨name, named, conditions, matchers, lines, actions, account, ⟨inner, auth, read⟩, ⟨⟩⟩ := e
    exact .intro isMapping named matchers actions auth read
  · rintro ⟨isMapping, name, matchers, actions, auth, account⟩
    rw [isMapping]
    simp only [bind_eq_ok_iff, nameOf_eq_ok_iff, textsOf_eq_ok_iff, Account.ofValue_eq_ok_iff]
    exact ⟨_, name, _, matchers, _, actions, _, ⟨_, auth, account⟩, rfl⟩

/-- Of what can be written, a record is read exactly if it has all it needs. -/
theorem exists_isRead_iff (writable : IsWritable parts v) :
    (∃ record : Record, record.IsRead env parts position v) ↔ IsSound env parts v := by
  constructor
  · rintro ⟨record, isMapping, -, matchers, actions, auth, account⟩
    have sound := (Account.exists_isRead_iff (writable.account _ _ isMapping auth)).1 ⟨_, account⟩
    exact .intro isMapping matchers actions auth sound
  · rintro ⟨isMapping, matchers, actions, auth, sound⟩
    obtain ⟨account, read⟩ :=
      (Account.exists_isRead_iff (writable.account _ _ isMapping auth)).2 sound
    obtain ⟨t, shown⟩ := Option.isSome_iff_exists.1 (writable.name _ isMapping)
    cases named : (Value.get _ "name").isTrue parts with
    | true => exact ⟨⟨t, _, _, account⟩, .intro isMapping (.inl ⟨named, shown⟩) matchers actions
        auth read⟩
    | false => exact ⟨⟨usualName position, _, _, account⟩, .intro isMapping (.inr ⟨named, rfl⟩)
        matchers actions auth read⟩

theorem not_breaks_of_isWritable (writable : IsWritable parts v) {cause : Breakdown} :
    ¬ Breaks env parts position v cause := by
  rintro (⟨isMapping, -, long⟩ | ⟨isMapping, -, -, -, auth, breaks⟩)
  · have := writable.name _ isMapping
    rw [long] at this
    cases this
  · exact Account.not_breaks_of_isWritable (writable.account _ _ isMapping auth) breaks

/-- Whatever can be written fails with a report, if it fails. -/
theorem exists_fault_of_isWritable (writable : IsWritable parts v) {failure : Failure}
    (e : ofValue env parts position v = .error failure) : ∃ fault, failure = .config fault := by
  refine (isOfLoading_of_ofValue e).resolve_right ?_
  rintro ⟨cause, rfl⟩
  exact not_breaks_of_isWritable writable (ofValue_eq_breakdown_iff.1 e)

end Record

/-! ### All items -/

/-- There is something related to each element, in order, exactly if there is for each by itself. -/
theorem exists_forall₂_iff_forall {α β : Type} {R : α → β → Prop} {as : List α} :
    (∃ bs, List.Forall₂ R as bs) ↔ ∀ a ∈ as, ∃ b, R a b := by
  induction as with
  | nil => exact ⟨fun _ => nofun, fun _ => ⟨[], .nil⟩⟩
  | cons a as ih =>
    rw [List.forall_mem_cons, ← ih]
    constructor
    · rintro ⟨_, _ | ⟨first, others⟩⟩
      exact ⟨⟨_, first⟩, _, others⟩
    · rintro ⟨⟨b, first⟩, bs, others⟩
      exact ⟨b :: bs, .cons first others⟩

namespace Record

variable (env : Environment) (d : Document)

theorem listOfDocument_eq_ok_iff {records : List Record} :
    listOfDocument env d = .ok records ↔ ∃ items, d.items? = some items ∧
      List.Forall₂ (fun item record => IsRead env d.parts item.2 item.1 record)
        items.zipIdx records := by
  rw [listOfDocument_eq]
  cases d.items? with
  | none => simp
  | some items => simp [mapM_eq_ok_iff, ofValue_eq_ok_iff]

theorem mem_of_mem_zipIdx {α : Type} {as : List α} {item : α × Nat} (h : item ∈ as.zipIdx) :
    item.1 ∈ as := by
  rw [← List.zipIdx_map_fst 0 as]
  exact List.mem_map_of_mem h

theorem exists_listOfDocument_iff {items : List Value} (listed : d.items? = some items)
    (writable : ∀ v ∈ items, IsWritable d.parts v) :
    (∃ records, listOfDocument env d = .ok records) ↔ ∀ v ∈ items, IsSound env d.parts v := by
  have each (item : Value × Nat) (h : item ∈ items.zipIdx) :
      (∃ record, IsRead env d.parts item.2 item.1 record) ↔ IsSound env d.parts item.1 :=
    exists_isRead_iff (writable item.1 (mem_of_mem_zipIdx h))
  calc (∃ records, listOfDocument env d = .ok records)
      ↔ ∀ item ∈ items.zipIdx, ∃ record, IsRead env d.parts item.2 item.1 record := by
        simp only [listOfDocument_eq_ok_iff, listed, Option.some.injEq, exists_eq_left',
          exists_forall₂_iff_forall]
    _ ↔ ∀ item ∈ items.zipIdx, IsSound env d.parts item.1 := forall₂_congr each
    _ ↔ ∀ v ∈ items.zipIdx.map Prod.fst, IsSound env d.parts v := List.forall_mem_map.symm
    _ ↔ ∀ v ∈ items, IsSound env d.parts v := by rw [List.zipIdx_map_fst]

theorem fault_of_listOfDocument {failure : Failure} (e : listOfDocument env d = .error failure) :
    (∃ fault, failure = .config fault) ∨
      ∃ items, d.items? = some items ∧ ∃ v ∈ items, ¬ IsWritable d.parts v := by
  rw [listOfDocument_eq] at e
  cases listed : d.items? with
  | none =>
    rw [listed] at e
    cases e
    exact .inl ⟨_, rfl⟩
  | some items =>
    rw [listed] at e
    obtain ⟨before, ⟨v, position⟩, after, split, -, fails⟩ := mapM_eq_error_iff.1 e
    by_cases writable : IsWritable d.parts v
    · exact .inl (exists_fault_of_isWritable writable fails)
    · have hitem : (v, position) ∈ items.zipIdx := by
        rw [split]
        exact List.mem_append_cons_self
      exact .inr ⟨items, rfl, v, mem_of_mem_zipIdx hitem, writable⟩

variable {env d} in
/-- A password that is given is the text of its value, unless that counts as empty. -/
theorem shown?_password_iff {entries : List (Scalar × Value)} {account : Account}
    (read : account.IsRead env d.parts entries)
    (given : (Value.get entries "password").isNull = false) :
    (Value.get entries "password").shown? d.parts = some account.password ↔
      (Value.get entries "password").isTrue d.parts = true ∨
        Value.get entries "password" = .ofText [] := by
  obtain ⟨username, password, host, server⟩ := account
  cases read.password with
  | written isTrue shown => exact iff_of_true shown (.inl isTrue)
  | dropped _ empty =>
    constructor
    · exact fun shown => .inr (Value.eq_text_nil_of_shown empty shown)
    · rintro (isTrue | same)
      · cases empty.symm.trans isTrue
      · rw [same]
        rfl
  | found ungiven => cases given.symm.trans ungiven
  | none ungiven => cases given.symm.trans ungiven

/-- What comes of loading the items of a configuration. -/
structure IsAllOrNothing (loaded : Except Failure (List Record)) : Prop where
  /-- The records are those that the items stand for, in order. -/
  ok_iff : ∀ records, loaded = .ok records ↔ ∃ items, d.items? = some items ∧
    List.Forall₂ (fun item record => IsRead env d.parts item.2 item.1 record) items.zipIdx records
  /-- Of items that can be written, there are records exactly if each has all it needs. -/
  sound_iff : ∀ items, d.items? = some items → (∀ v ∈ items, IsWritable d.parts v) →
    ((∃ records, loaded = .ok records) ↔ ∀ v ∈ items, IsSound env d.parts v)
  /-- If there are no records there is a report, unless an item cannot be written. -/
  fault_or : ∀ failure, loaded = .error failure → (∃ fault, failure = .config fault) ∨
    ∃ items, d.items? = some items ∧ ∃ v ∈ items, ¬ IsWritable d.parts v
  /-- A password that is given is the text of its value, unless that counts as empty without being
  the empty text. -/
  password_iff : ∀ entries (account : Account), account.IsRead env d.parts entries →
    (Value.get entries "password").isNull = false →
    ((Value.get entries "password").shown? d.parts = some account.password ↔
      (Value.get entries "password").isTrue d.parts = true ∨
        Value.get entries "password" = .ofText [])

/-- **A configuration is loaded whole or not at all**, whatever the environment. -/
theorem loads_all_or_nothing : IsAllOrNothing env d (listOfDocument env d) := by
  constructor
  case ok_iff => exact fun records => listOfDocument_eq_ok_iff env d
  case sound_iff => exact fun items listed writable => exists_listOfDocument_iff env d listed writable
  case fault_or => exact fun failure e => fault_of_listOfDocument env d e
  case password_iff => exact fun entries account read given => shown?_password_iff read given

end Record

/-- A configuration whose password is written as a number. -/
def Document.numeric (password : Int) : Document :=
  .ofValue (.list [.mapping [(.text "matchers", .list [.ofText "*"]),
    (.text "auth", .mapping [(.text "username", .ofText "u"),
      (.text "password", .scalar (.int password)), (.text "host", .ofText "h"),
      (.text "server", .ofText "s")])]])

/-- The password of zeros is dropped; others are kept. -/
theorem Document.numeric_drops_zero :
    Record.listOfDocument ⟨[]⟩ (numeric 0) = .ok [⟨"rule #1", ["*"], [], ⟨"u", "", "h", "s"⟩⟩] ∧
      Record.listOfDocument ⟨[]⟩ (numeric 7) =
        .ok [⟨"rule #1", ["*"], [], ⟨"u", "7", "h", "s"⟩⟩] ∧
      (Value.scalar (.int 0)).shown? #[] = some "0" := by
  decide +kernel

end Mailroom
