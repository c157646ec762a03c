import Mailroom.Proofs.Header.Token
import Mailroom.Proofs.Rule.Template
import Mailroom.Rule.Action

/-!
# The grammar of action lines

A template is cut from left to right: where a placeholder begins it is taken whole, and any other
code point stands for itself. What is left between the placeholders are literal runs.

* `Template.IsPlaceholder`, `Template.IsCut`: placeholders and the cut, said without a scanner;
* `Template.isCut_iff`: every template has one cut, and it is the one that is scanned;
* `Template.opening_infix_flatten_iff`: the runs put together have an opening if one of them has, or
  if braces at their ends meet where placeholders were;
* `Action.parse_assignment`: which lines are actions, and that one is refused because of braces that
  meet although there is no opening in it.
-/

namespace Mailroom

namespace Template

/-! ### Placeholders -/

/-- A text is a placeholder for a name: this stands between braces, with blanks around it. -/
structure IsPlaceholder (name p : Text) : Prop where
  nonempty : name ≠ []
  chars : ∀ c ∈ name, isNameChar c = true
  shape : ∃ l r : Text, p = opening ++ (l ++ (name ++ (r ++ closing))) ∧ l.isBlank = true ∧
    r.isBlank = true

theorem not_isBlank_of_isNameChar {c : CodePoint} (h : isNameChar c = true) :
    c.isBlank = false :=
  FieldName.not_isBlank_of_isTokenChar (isTokenChar_of_isNameChar h)

theorem isNameChar_of_isBlank {c : CodePoint} (h : c.isBlank = true) : isNameChar c = false :=
  Bool.eq_false_iff.2 fun char => by
    rw [not_isBlank_of_isNameChar char] at h
    cases h

/-- A run of code points of a class ends before one that is not of it. -/
theorem span_of_head {p : CodePoint → Bool} {s t : Text} (all : ∀ c ∈ s, p c = true)
    (stop : ∀ c, t.head? = some c → p c = false) :
    (s ++ t).takeWhile p = s ∧ (s ++ t).dropWhile p = t := by
  rw [List.takeWhile_append_of_pos all, List.dropWhile_append_of_pos all]
  cases t with
  | nil => exact ⟨List.append_nil s, rfl⟩
  | cons c t =>
    have hc := stop c rfl
    rw [List.takeWhile_cons_of_neg (by simp [hc]), List.dropWhile_cons_of_neg (by simp [hc])]
    exact ⟨List.append_nil s, rfl⟩

theorem isPlaceholder_of_placeholder? {t name rest : Text}
    (found : placeholder? t = some (name, rest)) : ∃ p, IsPlaceholder name p ∧ t = p ++ rest := by
  obtain ⟨nonempty, chars⟩ := mem_placeholder? found
  unfold placeholder? at found
  split at found
  · next opened =>
    obtain ⟨u, rfl⟩ := List.isPrefixOf_iff_prefix.1 opened
    rw [show (opening ++ u).drop 2 = u from rfl] at found
    dsimp only at found
    split at found
    · next closed =>
      rw [Bool.and_eq_true, List.isPrefixOf_iff_prefix] at closed
      obtain ⟨v, hv⟩ := closed.2
      cases found
      rw [← hv, show (closing ++ v).drop 2 = v from rfl]
      -- the scanner has passed three runs before the closing braces
      let l := u.takeWhile CodePoint.isBlank
      let r := ((u.dropWhile CodePoint.isBlank).dropWhile isNameChar).takeWhile CodePoint.isBlank
      have whole : u = l ++ ((u.dropWhile CodePoint.isBlank).takeWhile isNameChar ++
          (r ++ (closing ++ v))) := by
        rw [hv, List.takeWhile_append_dropWhile, List.takeWhile_append_dropWhile,
          List.takeWhile_append_dropWhile]
      refine ⟨_, ⟨nonempty, chars, l, r, rfl, List.all_takeWhile, List.all_takeWhile⟩, ?_⟩
      conv_lhs => rw [whole]
      simp only [List.append_assoc]
    · cases found
  · cases found

theorem placeholder?_append {name p : Text} (h : IsPlaceholder name p) (rest : Text) :
    placeholder? (p ++ rest) = some (name, rest) := by
  obtain ⟨nonempty, chars, l, r, rfl, hl, hr⟩ := h
  -- each of the scanner's three runs ends where the next part begins
  have before : (l ++ (name ++ (r ++ (closing ++ rest)))).dropWhile CodePoint.isBlank =
      name ++ (r ++ (closing ++ rest)) := by
    refine (span_of_head (List.all_eq_true.1 hl) fun d hd => ?_).2
    obtain ⟨c, name, rfl⟩ := List.exists_cons_of_ne_nil nonempty
    cases hd
    exact not_isBlank_of_isNameChar (chars d List.mem_cons_self)
  have within := span_of_head chars (t := r ++ (closing ++ rest)) fun d hd => by
    cases r with
    | nil =>
      cases hd
      decide
    | cons e r =>
      cases hd
      exact isNameChar_of_isBlank (List.all_eq_true.1 hr d List.mem_cons_self)
  have behind : (r ++ (closing ++ rest)).dropWhile CodePoint.isBlank = closing ++ rest :=
    (span_of_head (List.all_eq_true.1 hr) fun d hd => by cases hd; decide).2
  have opened : opening.isPrefixOf (opening ++ (l ++ (name ++ (r ++ closing))) ++ rest) = true :=
    List.isPrefixOf_iff_prefix.2 (by rw [List.append_assoc]; exact List.prefix_append _ _)
  have closed : closing.isPrefixOf (closing ++ rest) = true :=
    List.isPrefixOf_iff_prefix.2 (List.prefix_append _ _)
  have inner : (opening ++ (l ++ (name ++ (r ++ closing))) ++ rest).drop 2 =
      l ++ (name ++ (r ++ (closing ++ rest))) := by
    rw [show (opening ++ (l ++ (name ++ (r ++ closing))) ++ rest).drop 2 =
      l ++ (name ++ (r ++ closing)) ++ rest from rfl]
    simp only [List.append_assoc]
  unfold placeholder?
  rw [if_pos opened, inner]
  dsimp only
  rw [before, within.1, within.2, behind, if_pos (by simp [nonempty, closed])]
  rfl

/-- **What is scanned as a placeholder is one**, and every placeholder is. -/
theorem placeholder?_eq_some_iff {t name rest : Text} :
    placeholder? t = some (name, rest) ↔ ∃ p, IsPlaceholder name p ∧ t = p ++ rest :=
  ⟨isPlaceholder_of_placeholder?, fun ⟨_, h, whole⟩ => whole ▸ placeholder?_append h rest⟩

/-! ### The cut -/

/-- A template is cut into segments: a placeholder is one where it begins, and a code point where
none does. -/
inductive IsCut : Text → List Segment → Prop
  | nil : IsCut [] []
  | placeholder {name p t : Text} {segs : List Segment} (first : IsPlaceholder name p)
      (rest : IsCut t segs) : IsCut (p ++ t) (.placeholder name :: segs)
  | char {c : CodePoint} {t : Text} {segs : List Segment}
      (unopened : ∀ name p rest, IsPlaceholder name p → c :: t ≠ p ++ rest)
      (rest : IsCut t segs) :
      IsCut (c :: t) (.char c :: segs)

/-- Code points that belong to the segment before are passed over. -/
theorem segmentsAfter_eq (n : Nat) (t : Text) : segmentsAfter n t = segments (t.drop n) := by
  induction t generalizing n with
  | nil => rw [List.drop_nil]; rfl
  | cons c t ih =>
    cases n with
    | zero => rfl
    | succ n => exact ih n

theorem segments_of_isPlaceholder {name p : Text} (h : IsPlaceholder name p) (rest : Text) :
    segments (p ++ rest) = .placeholder name :: segments rest := by
  obtain ⟨l, r, shape, -, -⟩ := h.shape
  obtain ⟨c, p', rfl⟩ : ∃ c p', p = c :: p' := ⟨_, _, shape⟩
  have found : placeholder? (c :: (p' ++ rest)) = some (name, rest) := placeholder?_append h rest
  show segmentsAfter 0 (c :: (p' ++ rest)) = _
  rw [segmentsAfter]
  simp only [found]
  rw [segmentsAfter_eq, List.length_append, Nat.add_sub_cancel, List.drop_left]

theorem segments_of_not_isPlaceholder {c : CodePoint} {t : Text}
    (unopened : ∀ name p rest, IsPlaceholder name p → c :: t ≠ p ++ rest) :
    segments (c :: t) = .char c :: segments t := by
  have unfound : placeholder? (c :: t) = none := by
    rw [Option.eq_none_iff_forall_ne_some]
    rintro ⟨name, rest⟩ found
    obtain ⟨p, h, whole⟩ := placeholder?_eq_some_iff.1 found
    exact unopened name p rest h whole
  show segmentsAfter 0 (c :: t) = _
  rw [segmentsAfter]
  simp only [unfound]
  rfl

/-- **A template has one cut**, and it is the one that is scanned. -/
theorem isCut_iff {t : Text} {segs : List Segment} : IsCut t segs ↔ segs = segments t := by
  constructor
  · intro h
    induction h with
    | nil => rfl
    | placeholder first rest ih => rw [segments_of_isPlaceholder first, ih]
    | char unopened rest ih => rw [segments_of_not_isPlaceholder unopened, ih]
  · rintro rfl
    -- on the length of the template, as a placeholder takes several code points at once
    induction hn : t.length using Nat.strong_induction_on generalizing t with
    | _ n ih =>
      subst hn
      by_cases found : ∃ name p rest, IsPlaceholder name p ∧ t = p ++ rest
      · obtain ⟨name, p, rest, h, rfl⟩ := found
        obtain ⟨l, r, shape, -, -⟩ := h.shape
        rw [segments_of_isPlaceholder h]
        refine .placeholder h (ih _ ?_ rfl)
        rw [List.length_append, shape, List.length_append]
        show rest.length < 2 + _ + _
        omega
      · push Not at found
        cases t with
        | nil => exact .nil
        | cons c t =>
          rw [segments_of_not_isPlaceholder found]
          exact .char found (ih _ (Nat.lt_succ_self _) rfl)

/-! ### Literal runs -/

/-- The literal runs between the placeholders, of which there is one more than of these. -/
def runs : List Segment → List Text
  | [] => [[]]
  | .char c :: segs => (runs segs).modifyHead (c :: ·)
  | .placeholder _ :: segs => [] :: runs segs

theorem exists_runs_eq_cons (segs : List Segment) : ∃ run others, runs segs = run :: others := by
  induction segs with
  | nil => exact ⟨_, _, rfl⟩
  | cons segment segs ih =>
    cases segment with
    | placeholder name => exact ⟨_, _, rfl⟩
    | char c =>
      obtain ⟨run, others, h⟩ := ih
      exact ⟨c :: run, others, by rw [runs, h]; rfl⟩

/-- What is left without the placeholders are the runs put together. -/
theorem literal_eq_flatten_runs (t : Text) : literal t = (runs (segments t)).flatten := by
  unfold literal
  induction segments t with
  | nil => rfl
  | cons segment segs ih =>
    cases segment with
    | placeholder name =>
      rw [List.filterMap_cons_none rfl, ih]
      rfl
    | char c =>
      obtain ⟨run, others, h⟩ := exists_runs_eq_cons segs
      rw [runs, h]
      exact congrArg (c :: ·) (ih.trans (by rw [h]; rfl))

/-- The brace that openings are made of. -/
def brace : CodePoint := CodePoint.ofChar '\x7b'

theorem opening_eq : opening = [brace, brace] := rfl

theorem eq_brace_iff {c : CodePoint} : (c.val == 0x7B) = true ↔ c = brace := by
  rw [beq_iff_eq]
  exact ⟨fun h => CodePoint.ext h, fun h => h ▸ rfl⟩

@[simp] theorem opening_ne_nil : opening ≠ [] := List.cons_ne_nil _ _

theorem opening_infix_cons_iff {c : CodePoint} {t : Text} :
    opening <:+: c :: t ↔ (c = brace ∧ t.head? = some brace) ∨ opening <:+: t := by
  rw [List.infix_cons_iff, opening_eq, List.cons_prefix_cons]
  cases t with
  | nil => simp
  | cons d t => simp [List.cons_prefix_cons, eq_comm]

theorem hasOpening_iff {t : Text} : hasOpening t = true ↔ opening <:+: t := by
  induction t with
  | nil => simp [hasOpening]
  | cons c t ih =>
    rw [opening_infix_cons_iff, ← ih]
    cases t with
    | nil => simp [hasOpening]
    | cons d t =>
      rw [hasOpening, Bool.or_eq_true, Bool.and_eq_true, eq_brace_iff, eq_brace_iff,
        List.head?_cons, Option.some_inj]

/-- Braces at the ends of two runs meet when the placeholders between them are gone: the runs
between them are empty. -/
def Meets (runs : List Text) : Prop :=
  ∃ before u between v after, runs = before ++ u :: (between ++ v :: after) ∧
    (∀ run ∈ between, run = []) ∧ u.getLast? = some brace ∧ v.head? = some brace

theorem head?_flatten_eq_some_iff {ts : List Text} {c : CodePoint} :
    ts.flatten.head? = some c ↔
      ∃ between v after, ts = between ++ v :: after ∧ (∀ run ∈ between, run = []) ∧
        v.head? = some c := by
  induction ts with
  | nil => simp
  | cons t ts ih =>
    rw [List.flatten_cons]
    cases t with
    | nil =>
      rw [List.nil_append, ih]
      constructor
      · rintro ⟨between, v, after, rfl, empty, head⟩
        exact ⟨[] :: between, v, after, rfl, List.forall_mem_cons.2 ⟨rfl, empty⟩, head⟩
      · rintro ⟨_ | ⟨run, between⟩, v, after, split, empty, head⟩
        · cases split
          cases head
        · cases split
          exact ⟨between, v, after, rfl, (List.forall_mem_cons.1 empty).2, head⟩
    | cons d t =>
      constructor
      · intro head
        exact ⟨[], d :: t, ts, rfl, fun _ h => (by cases h), head⟩
      · rintro ⟨_ | ⟨run, between⟩, v, after, split, empty, head⟩
        · cases split
          exact head
        · cases split
          cases (List.forall_mem_cons.1 empty).1

theorem not_meets_nil : ¬ Meets [] := by
  rintro ⟨before, u, between, v, after, split, -⟩
  simp at split

theorem meets_cons_iff {run : Text} {others : List Text} :
    Meets (run :: others) ↔
      (run.getLast? = some brace ∧ others.flatten.head? = some brace) ∨ Meets others := by
  rw [head?_flatten_eq_some_iff]
  constructor
  · rintro ⟨_ | ⟨w, before⟩, u, between, v, after, split, empty, last, head⟩
    · cases split
      exact .inl ⟨last, between, v, after, rfl, empty, head⟩
    · cases split
      exact .inr ⟨before, u, between, v, after, rfl, empty, last, head⟩
  · rintro (⟨last, between, v, after, rfl, empty, head⟩ |
      ⟨before, u, between, v, after, rfl, meet⟩)
    · exact ⟨[], run, between, v, after, rfl, empty, last, head⟩
    · exact ⟨run :: before, u, between, v, after, rfl, meet⟩

theorem opening_infix_append_iff {s t : Text} :
    opening <:+: s ++ t ↔
      opening <:+: s ∨ opening <:+: t ∨ (s.getLast? = some brace ∧ t.head? = some brace) := by
  induction s with
  | nil => simp
  | cons c s ih =>
    rw [List.cons_append, opening_infix_cons_iff, ih, opening_infix_cons_iff]
    cases s with
    | nil => simp [or_comm]
    | cons d s => simp only [List.cons_append, List.head?_cons, List.getLast?_cons_cons, or_assoc]

/-- **Runs put together have an opening** if one of them has, or if braces at their ends meet. -/
theorem opening_infix_flatten_iff {ts : List Text} :
    opening <:+: ts.flatten ↔ (∃ run ∈ ts, opening <:+: run) ∨ Meets ts := by
  induction ts with
  | nil => simp [not_meets_nil]
  | cons t ts ih =>
    rw [List.flatten_cons, opening_infix_append_iff, ih, meets_cons_iff, List.exists_mem_cons_iff]
    simp only [or_assoc, or_comm (a := Meets ts)]

theorem isWellFormed_iff {t : Text} {segs : List Segment} (cut : IsCut t segs) :
    isWellFormed t = true ↔ (∀ run ∈ runs segs, ¬ opening <:+: run) ∧ ¬ Meets (runs segs) := by
  obtain rfl := isCut_iff.1 cut
  rw [isWellFormed, Bool.not_eq_true', Bool.eq_false_iff, ne_eq, hasOpening_iff,
    literal_eq_flatten_runs, opening_infix_flatten_iff]
  push Not
  rfl

/-- Where braces meet, three of them stand side by side in the template: one before a placeholder
and the two that open it. -/
theorem braces_infix_of_meets {t : Text} {segs : List Segment} (cut : IsCut t segs)
    (meets : Meets (runs segs)) : brace :: opening <:+: t := by
  induction cut with
  | nil =>
    rcases meets_cons_iff.1 meets with ⟨last, -⟩ | absent
    · cases last
    · exact absurd absent not_meets_nil
  | @placeholder name p t segs first rest ih =>
    rcases meets_cons_iff.1 meets with ⟨last, -⟩ | meets
    · cases last
    · exact (ih meets).trans (List.suffix_append p t).isInfix
  | @char c t segs unopened rest ih =>
    obtain ⟨run, others, hruns⟩ := exists_runs_eq_cons segs
    rw [runs, hruns, List.modifyHead_cons, meets_cons_iff] at meets
    have further : Meets (runs segs) → brace :: opening <:+: c :: t := fun meets =>
      (ih meets).trans (List.suffix_cons c t).isInfix
    rcases meets with ⟨last, head⟩ | meets
    · cases run with
      | nil =>
        -- the code point is the whole run, so that a placeholder begins after it
        cases last
        cases rest with
        | nil =>
          cases hruns
          cases head
        | char unopened rest =>
          obtain ⟨run, others, h⟩ := exists_runs_eq_cons _
          rw [runs, h] at hruns
          cases hruns
        | @placeholder name p rest segs first =>
          obtain ⟨l, r, rfl, -, -⟩ := first.shape
          exact ⟨[], l ++ (name ++ (r ++ closing)) ++ rest, rfl⟩
      | cons d run =>
        rw [List.getLast?_cons_cons] at last
        exact further (hruns ▸ meets_cons_iff.2 (.inl ⟨last, head⟩))
    · exact further (hruns ▸ meets_cons_iff.2 (.inr meets))

end Template

namespace Action

/-- **The field of an action is a token**: blanks around its name are gone before it is checked. -/
theorem isToken_of_parse {line : Text} {a : Action} (h : parse line = .ok a) :
    FieldName.isToken a.field = true := by
  unfold parse at h
  split at h
  · cases h
  split at h
  · cases h
  split at h
  case isFalse => cases h
  unfold parseAssignment at h
  split at h
  · cases h
  next name template _ =>
    dsimp only at h
    split at h
    · cases h
    split at h
    · cases h
    next valid =>
      split at h
      · cases h
      cases h
      exact FieldName.isToken_of_isValid (by simpa using valid) (Text.isTrimmed_trim name)

/-- A token as the name leaves only the template to be checked. -/
theorem parse_of_isToken {field : Text} (token : FieldName.isToken field = true)
    (template : Text) :
    parse (Text.ofString "SetHeader " ++ (field ++ (Text.ofString ":" ++ template))) =
      if Template.isWellFormed template then .ok ⟨field, template⟩
      else .error (.badPlaceholder template) := by
  have colonless : CodePoint.ofChar ':' ∉ field := fun h =>
    FieldName.ne_of_isTokenChar ((FieldName.isToken_iff.1 token).2 _ h)
      (d := CodePoint.ofChar ':') (by decide) rfl
  have cutCommand : Text.cut? ' ' (Text.ofString "SetHeader " ++
      (field ++ (Text.ofString ":" ++ template))) =
        some (Text.ofString "SetHeader", field ++ (CodePoint.ofChar ':' :: template)) :=
    Text.cut?_append (s := Text.ofString "SetHeader") (by decide) _
  have cutField : Text.cut? ':' (field ++ (CodePoint.ofChar ':' :: template)) =
    some (field, template) := Text.cut?_append colonless template
  have trimmed : field.trim = field :=
    Text.trim_eq_self_iff.2 (FieldName.isTrimmed_of_isToken token)
  have nonempty : field.isEmpty = false :=
    List.isEmpty_eq_false_iff.2 (FieldName.isToken_iff.1 token).1
  rw [parse, cutCommand]
  dsimp only
  rw [if_neg (by simp), if_pos rfl, parseAssignment, cutField]
  dsimp only
  rw [trimmed, nonempty, FieldName.isValid_of_isToken token]
  cases Template.isWellFormed template <;> rfl

/-- **Which lines are actions on a field.** A template is cut in one way into placeholders and
literal runs. It is accepted, and kept as it is, if no run has an opening and no braces at the ends
of runs meet; in all other cases it is refused. So of the templates without an opening in a run
only some with three braces side by side are refused. -/
theorem parse_assignment {field : Text} (token : FieldName.isToken field = true)
    (template : Text) :
    let line := Text.ofString "SetHeader " ++ (field ++ (Text.ofString ":" ++ template))
    ∃ segs, (∀ others, Template.IsCut template others ↔ others = segs) ∧
      (parse line = .ok ⟨field, template⟩ ↔
        (∀ run ∈ Template.runs segs, ¬ Template.opening <:+: run) ∧
          ¬ Template.Meets (Template.runs segs)) ∧
      (parse line = .error (.badPlaceholder template) ↔
        (∃ run ∈ Template.runs segs, Template.opening <:+: run) ∨
          Template.Meets (Template.runs segs)) ∧
      (Template.Meets (Template.runs segs) → Text.ofString "\x7b\x7b\x7b" <:+: template) := by
  intro line
  have cut : Template.IsCut template (Template.segments template) := Template.isCut_iff.2 rfl
  have wellFormed := Template.isWellFormed_iff cut
  have read : parse line = _ := parse_of_isToken token template
  refine ⟨_, fun others => Template.isCut_iff, ?_, ?_, Template.braces_infix_of_meets cut⟩
  · rw [← wellFormed, read]
    cases Template.isWellFormed template <;> simp
  · have refused : Template.isWellFormed template = false ↔
        (∃ run ∈ Template.runs (Template.segments template), Template.opening <:+: run) ∨
          Template.Meets (Template.runs (Template.segments template)) := by
      rw [← Bool.not_eq_true, wellFormed, Classical.not_and_iff_not_or_not, Classical.not_not]
      push Not
      rfl
    rw [← refused, read]
    cases Template.isWellFormed template <;> simp

/-- Blanks at the ends of a template, further colons and single braces are kept. -/
theorem subject_parses :
    FieldName.isToken (Text.ofString "Subject") = true ∧
      parse "SetHeader Subject: \x7b\x7b From \x7d\x7d: \x7bx\x7d " =
        .ok ⟨"Subject", " \x7b\x7b From \x7d\x7d: \x7bx\x7d "⟩ := by
  have token : FieldName.isToken (Text.ofString "Subject") = true := by decide
  obtain ⟨segs, unique, accepted, -, -⟩ :=
    parse_assignment token (Text.ofString " \x7b\x7b From \x7d\x7d: \x7bx\x7d ")
  exact ⟨token, accepted.2 ((Template.isWellFormed_iff ((unique segs).2 rfl)).1 (by decide))⟩

/-- No literal run of this template has an opening, and it is refused. -/
theorem parse_meeting_braces :
    FieldName.isToken (Text.ofString "X") = true ∧
      Template.IsCut "\x7b\x7b\x7ba\x7d\x7d\x7b"
        [.char '\x7b', .placeholder "a", .char '\x7b'] ∧
      (∀ run ∈ Template.runs [.char '\x7b', .placeholder "a", .char '\x7b'],
        ¬ Template.opening <:+: run) ∧
      parse "SetHeader X:\x7b\x7b\x7ba\x7d\x7d\x7b" =
        .error (.badPlaceholder "\x7b\x7b\x7ba\x7d\x7d\x7b") :=
  ⟨by decide, Template.isCut_iff.2 (by decide), by decide, by decide⟩

end Action

end Mailroom
