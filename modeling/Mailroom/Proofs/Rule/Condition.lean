import Mailroom.Proofs.Perform
import Mailroom.Proofs.Text.Margin
import Mailroom.Rule.Matcher

/-!
# Conditions and their matchers

A condition is a name and a value with a colon between them. Of the name the blanks at its ends and
the letter case are lost, and then the mark of a pattern.

* `Matcher.IsRead`: what a name and a value are read as, said without a reader;
* `Matcher.parse_eq_ok_iff`: the conditions that have a matcher are those;
* `Matcher.parse_shown`: a matcher is shown as a condition that is read as that matcher;
* `Matcher.parse_spelled`: blanks and letter case around a name make no difference, but for blanks
  before the mark of a pattern, which stay in the name.
-/

namespace Mailroom.Matcher

/-! ### Reading -/

theorem withoutSuffix?_eq_some_iff {name key : Text} :
    withoutSuffix? name = some key ↔ name = key ++ patternSuffix := by
  unfold withoutSuffix?
  constructor
  · intro e
    split at e
    · next marked =>
      obtain ⟨k, rfl⟩ := List.isSuffixOf_iff_suffix.1 marked
      rw [List.length_append, Nat.add_sub_cancel, List.take_left, Option.some.injEq] at e
      rw [e]
    · cases e
  · rintro rfl
    rw [if_pos (List.isSuffixOf_iff_suffix.2 (List.suffix_append key patternSuffix)),
      List.length_append, Nat.add_sub_cancel, List.take_left]

theorem withoutSuffix?_eq_none_iff {name : Text} :
    withoutSuffix? name = none ↔ ¬ patternSuffix <:+ name := by
  rw [withoutSuffix?, ← List.isSuffixOf_iff_suffix]
  split <;> simp_all

theorem compile_eq_ok_iff {value : Text} {pattern : Pattern} :
    compile value = .ok pattern ↔ Pattern.parse value = .ok pattern := by
  unfold compile
  rcases Pattern.parse value with (_ | _) | _ <;> simp

theorem parse_append {name : Text} (plain : CodePoint.ofChar ':' ∉ name) (value : Text) :
    parse (name ++ Text.ofString ":" ++ value) =
      match withoutSuffix? (Text.lower name.trim) with
      | some key => compile value >>= fun pattern =>
        if key.isEmpty then .error (.fault .noField)
        else .ok (.field ⟨key, value, some pattern⟩)
      | none =>
        if (Text.lower name.trim).isEmpty then .error (.fault .noField)
        else .ok (.field ⟨Text.lower name.trim, value, none⟩) := by
  have whole : name ++ Text.ofString ":" ++ value = name ++ CodePoint.ofChar ':' :: value := by
    simp [Text.ofString]
  have noStar : name ++ CodePoint.ofChar ':' :: value ≠ Text.ofString "*" := by
    intro e
    have : CodePoint.ofChar ':' ∈ Text.ofString "*" := by
      rw [← e]
      exact List.mem_append_right _ List.mem_cons_self
    exact absurd this (by decide)
  rw [whole, parse, if_neg noStar, Text.cut?_append plain]
  dsimp only
  cases withoutSuffix? (Text.lower name.trim) <;> rfl

/-- What a name and a value are read as: the name in small letters and without blanks at its ends is
that of a field, or of a field with the mark of a pattern behind it. -/
inductive IsRead (name value : Text) : Condition → Prop
  | value {field : Text} (spelled : Text.lower name.trim = field)
      (plain : ¬ patternSuffix <:+ field) : IsRead name value ⟨field, value, none⟩
  | pattern {field : Text} {pattern : Pattern}
      (spelled : Text.lower name.trim = field ++ patternSuffix)
      (compiles : Pattern.parse value = .ok pattern) :
      IsRead name value ⟨field, value, some pattern⟩

theorem parse_append_eq_ok_iff {name : Text} (plain : CodePoint.ofChar ':' ∉ name) {value : Text}
    {m : Matcher} :
    parse (name ++ Text.ofString ":" ++ value) = .ok m ↔
      ∃ c, IsRead name value c ∧ c.field ≠ [] ∧ m = .field c := by
  rw [parse_append plain]
  constructor
  · intro e
    split at e
    · next key marked =>
      obtain ⟨pattern, compiles, e⟩ := bind_eq_ok_iff.1 e
      split at e
      · cases e
      · next named =>
        cases e
        exact ⟨_, .pattern (withoutSuffix?_eq_some_iff.1 marked) (compile_eq_ok_iff.1 compiles),
          by simpa using named, rfl⟩
    · next unmarked =>
      split at e
      · cases e
      · next named =>
        cases e
        exact ⟨_, .value rfl (withoutSuffix?_eq_none_iff.1 unmarked), by simpa using named, rfl⟩
  · rintro ⟨c, read, named, rfl⟩
    cases read with
    | value spelled plain =>
      rw [spelled, withoutSuffix?_eq_none_iff.2 plain]
      exact if_neg (by simpa using named)
    | pattern spelled compiles =>
      rw [spelled, withoutSuffix?_eq_some_iff.2 rfl, compile_eq_ok_iff.2 compiles]
      exact if_neg (by simpa using named)

/-- **Which conditions have a matcher**, and which. -/
theorem parse_eq_ok_iff {condition : Text} {m : Matcher} :
    parse condition = .ok m ↔
      (condition = Text.ofString "*" ∧ m = .everything) ∨
      ∃ name value c, CodePoint.ofChar ':' ∉ name ∧
        condition = name ++ Text.ofString ":" ++ value ∧ IsRead name value c ∧ c.field ≠ [] ∧
        m = .field c := by
  constructor
  · intro e
    by_cases star : condition = Text.ofString "*"
    · subst star
      rw [parse_star] at e
      cases e
      exact .inl ⟨rfl, rfl⟩
    · cases cut : Text.cut? ':' condition with
      | none =>
        rw [parse, if_neg star, cut] at e
        cases e
      | some parts =>
        obtain ⟨name, value⟩ := parts
        have plain := Text.not_mem_of_cut? cut
        have whole : condition = name ++ Text.ofString ":" ++ value := by
          rw [Text.eq_of_cut? cut, List.append_assoc]
          rfl
        rw [whole, parse_append_eq_ok_iff plain] at e
        obtain ⟨c, read, named, rfl⟩ := e
        exact .inr ⟨name, value, c, plain, whole, read, named, rfl⟩
  · rintro (⟨rfl, rfl⟩ | ⟨name, value, c, plain, rfl, read, named, rfl⟩)
    · exact parse_star
    · exact (parse_append_eq_ok_iff plain).2 ⟨c, read, named, rfl⟩

/-! ### Names as they are kept -/

/-- The name of a condition as it is shown, with the mark of a pattern if it has one. -/
def shownName (c : Condition) : Text :=
  c.field ++ if c.pattern.isSome then patternSuffix else []

theorem shown_field (c : Condition) :
    shown (.field c) = shownName c ++ Text.ofString ":" ++ c.value := rfl

variable {name value : Text} {c : Condition}

/-- What is shown of the name is what the name was read as. -/
theorem IsRead.shownName_eq (read : IsRead name value c) :
    shownName c = Text.lower name.trim := by
  cases read with
  | value spelled => rw [spelled]; exact List.append_nil _
  | pattern spelled => rw [spelled]; rfl

/-- **What is shown of a name is read as that name.** -/
theorem IsRead.again (read : IsRead name value c) : IsRead (shownName c) c.value c := by
  have trimmed : (shownName c).trim = shownName c := by
    rw [read.shownName_eq]
    exact Text.trim_eq_self_iff.2 (Text.isTrimmed_lower (Text.isTrimmed_trim name))
  have kept : Text.lower (shownName c).trim = Text.lower name.trim := by
    rw [trimmed, read.shownName_eq, Text.lower_lower]
  cases read with
  | value spelled plain => exact .value (kept.trans spelled) plain
  | pattern spelled compiles => exact .pattern (kept.trans spelled) compiles

/-- No colon comes into a name that is put in small letters. -/
theorem IsRead.colon_not_mem (read : IsRead name value c) (plain : CodePoint.ofChar ':' ∉ name) :
    CodePoint.ofChar ':' ∉ shownName c := by
  rw [read.shownName_eq]
  intro colon
  rcases Text.mem_lower colon with inside | letter
  · obtain ⟨l, r, whole, -⟩ := Text.exists_blanks name
    refine plain ?_
    rw [whole]
    exact List.mem_append_left _ (List.mem_append_right _ inside)
  · exact absurd letter (by decide)

theorem parse_again {condition : Text} {m : Matcher} (accepted : parse condition = .ok m) :
    parse m.shown = .ok m := by
  rcases parse_eq_ok_iff.1 accepted with ⟨-, rfl⟩ | ⟨name, value, c, plain, -, read, named, rfl⟩
  · exact parse_star
  · exact parse_eq_ok_iff.2
      (.inr ⟨_, _, c, read.colon_not_mem plain, shown_field c, read.again, named, rfl⟩)

/-- The pattern of a condition is that of its value. -/
theorem compiles_of_parse {condition : Text} (accepted : parse condition = .ok (.field c))
    {pattern : Pattern} (marked : c.pattern = some pattern) :
    Pattern.parse c.value = .ok pattern := by
  rcases parse_eq_ok_iff.1 accepted with ⟨-, e⟩ | ⟨name, value, _, -, -, read, -, e⟩
  · cases e
  · cases e
    cases read with
    | value => cases marked
    | pattern spelled compiles =>
      cases marked
      exact compiles

/-- **A matcher is shown as a condition that is read as that matcher**, so that no other matcher is
shown as the same condition. The pattern of a matcher is that of the value that is shown. -/
theorem parse_shown {condition : Text} {m : Matcher} (accepted : parse condition = .ok m) :
    parse m.shown = .ok m ∧
      (∀ other m', parse other = .ok m' → m'.shown = m.shown → m' = m) ∧
      ∀ c pattern, m = .field c → c.pattern = some pattern →
        Pattern.parse c.value = .ok pattern := by
  refine ⟨parse_again accepted, fun other m' read same => ?_, ?_⟩
  · have again := parse_again read
    rw [same, parse_again accepted] at again
    cases again
    rfl
  · rintro c pattern rfl marked
    exact compiles_of_parse accepted marked

/-- Of two marks the first is in the name, with the blank behind it; it is shown with both. -/
theorem doubled_mark_shown :
    let m : Matcher :=
      .field ⟨"x-τελος/regex ", "x", some (.test .exact (.char (.ofChar 'x') false))⟩
    parse "  X-ΤΕΛΟΣ/regex /REGEX :x" = .ok m ∧ m.shown = "x-τελος/regex /regex:x" ∧
      parse "x-τελος/regex /regex:x" = .ok m := by
  intro m
  have accepted : parse "  X-ΤΕΛΟΣ/regex /REGEX :x" = .ok m := by decide +kernel
  exact ⟨accepted, by decide, (parse_shown accepted).1⟩

/-! ### Blanks and letter case -/

theorem isTrimmed_patternSuffix : patternSuffix.IsTrimmed := by decide

/-- The mark of a pattern begins where a word ends. -/
theorem lower_append_patternSuffix (name : Text) :
    Text.lower (name ++ patternSuffix) = Text.lower name ++ patternSuffix := by
  have slash : ∀ c, patternSuffix.head? = some c → c.IsBound := by
    intro c hc
    cases hc
    decide +kernel
  have small : Text.lower patternSuffix = patternSuffix := by decide +kernel
  rw [Text.lower_append slash, small]

/-- Before the mark of a pattern a name keeps the blanks at its end. -/
theorem lower_trim_marked {name behind : Text} (named : name.isBlank = false)
    (blank : behind.isBlank = true) :
    Text.lower (name ++ patternSuffix ++ behind).trim =
      Text.lower name.trim ++ name.blanksBehind ++ patternSuffix := by
  obtain ⟨before, left, whole⟩ := Text.exists_append_blanksBehind named
  have inner : name.trim ≠ [] := fun none => by
    rw [Text.trim_eq_nil_iff.1 none] at named
    cases named
  have trimmed : (name.trim ++ name.blanksBehind ++ patternSuffix).IsTrimmed := by
    constructor
    · intro c hc
      rw [List.append_assoc, List.head?_append_of_ne_nil _ inner] at hc
      exact (Text.isTrimmed_trim name).head c hc
    · intro c hc
      rw [List.getLast?_append_of_ne_nil _ (by decide)] at hc
      exact isTrimmed_patternSuffix.last c hc
  have parts : name ++ patternSuffix ++ behind =
      before ++ (name.trim ++ name.blanksBehind ++ patternSuffix) ++ behind := by
    conv_lhs => rw [whole]
    simp only [List.append_assoc]
  rw [parts, Text.trim_append left trimmed blank, lower_append_patternSuffix,
    Text.lower_append_of_isBlank _ name.isBlank_blanksBehind]

/-- A name with something else than blanks in it is not empty when it is kept. -/
theorem lower_trim_ne_nil_iff : Text.lower name.trim ≠ [] ↔ name.isBlank = false := by
  rw [ne_eq, Text.lower_eq_nil_iff, Text.trim_eq_nil_iff, Bool.not_eq_true]

theorem parse_value_eq (plain : CodePoint.ofChar ':' ∉ name) (named : name.isBlank = false)
    (unmarked : ¬ patternSuffix <:+ Text.lower name.trim) (value : Text) :
    parse (name ++ Text.ofString ":" ++ value) =
      .ok (.field ⟨Text.lower name.trim, value, none⟩) := by
  rw [parse_append plain, withoutSuffix?_eq_none_iff.2 unmarked]
  exact if_neg (by simpa using lower_trim_ne_nil_iff.2 named)

theorem colon_not_mem_of_isBlank {blanks : Text} (blank : blanks.isBlank = true) :
    CodePoint.ofChar ':' ∉ blanks := fun colon =>
  absurd (List.all_eq_true.1 blank _ colon) (by decide)

theorem parse_pattern_eq (plain : CodePoint.ofChar ':' ∉ name) (named : name.isBlank = false)
    {b : Text} (blank : b.isBlank = true) (value : Text) :
    parse (name ++ patternSuffix ++ b ++ Text.ofString ":" ++ value) =
      (compile value).map fun pattern =>
        .field ⟨Text.lower name.trim ++ name.blanksBehind, value, some pattern⟩ := by
  have noColon : CodePoint.ofChar ':' ∉ name ++ patternSuffix ++ b := by
    simp only [List.mem_append, not_or]
    exact ⟨⟨plain, by decide⟩, colon_not_mem_of_isBlank blank⟩
  have kept : (Text.lower name.trim ++ name.blanksBehind).isEmpty = false := by
    simp [lower_trim_ne_nil_iff.2 named]
  rw [parse_append noColon, lower_trim_marked named blank, withoutSuffix?_eq_some_iff.2 rfl]
  simp only [kept]
  cases compile value <;> rfl

/-- The kinds of the address fields are those of names without blanks at their ends. -/
theorem isTrimmed_of_ofField {field : Text} (address : FieldKind.ofField field = .address) :
    field.IsTrimmed := by
  have all : ∀ s ∈ FieldKind.addressFields, (Text.ofString s).IsTrimmed := by decide
  unfold FieldKind.ofField at address
  split at address
  · next found =>
    obtain ⟨s, hs, same⟩ := List.any_eq_true.1 found
    exact of_decide_eq_true same ▸ all s hs
  · cases address

theorem kind_eq_address_iff :
    c.kind = .address ↔ c.field.IsTrimmed ∧ FieldKind.ofField c.field.trim = .address := by
  constructor
  · intro address
    have trimmed := isTrimmed_of_ofField address
    exact ⟨trimmed, by rw [Text.trim_eq_self_iff.2 trimmed]; exact address⟩
  · rintro ⟨trimmed, address⟩
    rw [Text.trim_eq_self_iff.2 trimmed] at address
    exact address

/-- How the names of fields are kept. -/
structure IsKept (c : Condition) : Prop where
  /-- In small letters. -/
  small : Text.lower c.field = c.field
  /-- Without blanks at the beginning. -/
  head : ∀ d, c.field.head? = some d → d.isBlank = false
  /-- Without blanks at the end, if there is no pattern. -/
  trimmed : c.pattern = none → c.field.IsTrimmed

theorem IsRead.isKept (read : IsRead name value c) (named : c.field ≠ []) : IsKept c := by
  have trimmed := Text.isTrimmed_lower (Text.isTrimmed_trim name)
  have small := Text.lower_lower name.trim
  cases read with
  | value spelled plain =>
    subst spelled
    exact ⟨small, trimmed.head, fun _ => trimmed⟩
  | pattern spelled compiles =>
    rw [spelled] at trimmed small
    refine ⟨?_, fun d hd => trimmed.head d ?_, fun none => by cases none⟩
    · exact List.append_cancel_right ((lower_append_patternSuffix _).symm.trans small)
    · rw [List.head?_append_of_ne_nil _ named]
      exact hd

/-- A matcher has a name as it is kept, and is on an address field exactly if the name without
blanks is that of one and has none at its end. -/
theorem isKept_of_parse {condition : Text} (accepted : parse condition = .ok (.field c)) :
    IsKept c ∧
      (c.kind = .address ↔ c.field.IsTrimmed ∧ FieldKind.ofField c.field.trim = .address) := by
  refine ⟨?_, kind_eq_address_iff⟩
  rcases parse_eq_ok_iff.1 accepted with ⟨-, e⟩ | ⟨_, _, _, -, -, read, named, e⟩
  · cases e
  · cases e
    exact read.isKept named

/-- **Blanks and letter case around a name make no difference** if the value is to be compared as it
is. If it is a pattern, the blanks before the mark of a pattern stay in the name, which is then not
that of an address field: two spellings with other blanks there have the same matcher only if the
pattern is at fault and neither has one. -/
theorem parse_spelled {f g : Text} (plain : CodePoint.ofChar ':' ∉ f)
    (plain' : CodePoint.ofChar ':' ∉ g) (same : Text.lower g.trim = Text.lower f.trim)
    (named : f.isBlank = false) (unmarked : ¬ patternSuffix <:+ Text.lower f.trim) {a b c : Text}
    (left : a.isBlank = true) (middle : b.isBlank = true) (right : c.isBlank = true)
    (value : Text) :
    parse (f ++ Text.ofString ":" ++ value) = .ok (.field ⟨Text.lower f.trim, value, none⟩) ∧
      parse (a ++ g ++ b ++ Text.ofString ":" ++ value) =
        parse (f ++ Text.ofString ":" ++ value) ∧
      parse (a ++ g ++ b ++ patternSuffix ++ c ++ Text.ofString ":" ++ value) =
        (compile value).map (fun pattern =>
          .field ⟨Text.lower f.trim ++ (g.blanksBehind ++ b), value, some pattern⟩) ∧
      (parse (a ++ g ++ b ++ patternSuffix ++ c ++ Text.ofString ":" ++ value) =
          parse (f ++ patternSuffix ++ Text.ofString ":" ++ value) ↔
        g.blanksBehind ++ b = f.blanksBehind ∨ ∃ failure, compile value = .error failure) ∧
      ∀ condition k, parse condition = .ok (.field k) → IsKept k ∧
        (k.kind = .address ↔ k.field.IsTrimmed ∧ FieldKind.ofField k.field.trim = .address) := by
  have noColon : CodePoint.ofChar ':' ∉ a ++ g ++ b := by
    simp only [List.mem_append, not_or]
    exact ⟨⟨colon_not_mem_of_isBlank left, plain'⟩, colon_not_mem_of_isBlank middle⟩
  have trimmed : Text.lower (a ++ g ++ b).trim = Text.lower f.trim := by
    rw [Text.trim_between left middle, same]
  have named' : g.isBlank = false :=
    lower_trim_ne_nil_iff.1 (same ▸ lower_trim_ne_nil_iff.2 named)
  have around : (a ++ g ++ b).isBlank = false :=
    lower_trim_ne_nil_iff.1 (trimmed ▸ lower_trim_ne_nil_iff.2 named)
  have behind : (a ++ g ++ b).blanksBehind = g.blanksBehind ++ b := by
    rw [Text.blanksBehind_append _ middle, Text.blanksBehind_append_of_isBlank_eq_false a named']
  have pattern := parse_pattern_eq noColon around right value
  have bare := parse_pattern_eq plain named (b := []) rfl value
  rw [trimmed, behind] at pattern
  rw [List.append_nil] at bare
  have unpatterned := parse_value_eq plain named unmarked value
  refine ⟨unpatterned, ?_, pattern, ?_, fun _ _ => isKept_of_parse⟩
  · rw [unpatterned, parse_value_eq noColon around (by rwa [trimmed]), trimmed]
  · rw [pattern, bare]
    cases compile value <;> simp [Except.map]

/-- A sender that is asked for between blanks, with a tab and a blank of another kind. Before the
mark of a pattern that blank stays. -/
theorem padded_from_parse :
    let padded : Text := Text.ofString " " ++ "\tFROM" ++ "\u00a0"
    let pattern : Pattern := .test .exact (.char (.ofChar 'x') false)
    parse (padded ++ Text.ofString ":" ++ "x") = .ok (.field ⟨"from", "x", none⟩) ∧
      parse (padded ++ patternSuffix ++ " " ++ Text.ofString ":" ++ "x") =
        .ok (.field ⟨Text.ofString "from" ++ "\u00a0", "x", some pattern⟩) ∧
      parse (padded ++ patternSuffix ++ " " ++ Text.ofString ":" ++ "x") ≠
        parse ("From" ++ patternSuffix ++ Text.ofString ":" ++ "x") := by
  intro padded pattern
  obtain ⟨bare, same, marked, alike, -⟩ := parse_spelled (f := "From") (g := "\tFROM") (a := " ")
    (b := "\u00a0") (c := " ") (by decide) (by decide) (by decide +kernel) (by decide)
    (by decide +kernel) (by decide) (by decide) (by decide) "x"
  have compiles : compile "x" = .ok pattern := by decide +kernel
  have small : Text.lower (Text.trim "From") = "from" := by decide +kernel
  rw [compiles, small] at marked
  rw [small] at bare
  refine ⟨same.trans bare, marked, fun e => ?_⟩
  rcases alike.1 e with blanks | ⟨failure, fault⟩
  · exact absurd blanks (by decide)
  · rw [compiles] at fault
    cases fault

/-- A blank before the mark of a pattern makes a sender a field like any other. -/
theorem blank_before_mark_stays :
    let pattern : Pattern := .test .exact (.char (.ofChar 'x') false)
    parse "from /regex:x" = .ok (.field ⟨"from ", "x", some pattern⟩) ∧
      Condition.kind ⟨"from ", "x", some pattern⟩ = .plain ∧
      parse "from/regex:x" = .ok (.field ⟨"from", "x", some pattern⟩) ∧
      Condition.kind ⟨"from", "x", some pattern⟩ = .address ∧
      parse "from /regex:x" ≠ parse "from/regex:x" := by
  intro pattern
  have apart : parse "from /regex:x" = .ok (.field ⟨"from ", "x", some pattern⟩) := by
    decide +kernel
  have together : parse "from/regex:x" = .ok (.field ⟨"from", "x", some pattern⟩) := by
    decide +kernel
  refine ⟨apart, by decide, together, by decide, ?_⟩
  rw [apart, together]
  decide +kernel


end Mailroom.Matcher
