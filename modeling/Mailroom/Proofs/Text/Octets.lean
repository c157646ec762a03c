import Mailroom.Proofs.Text.Blank
import Mailroom.Proofs.Text.Utf8

/-!
# Texts and their octets

What is done to a text that has been read, seen on the octets that it was read of.

* `Utf8.octetsOf`, `Utf8.reread`: the octets of a text, and the text that is read of them;
* `Utf8.decodeKeeping_join`: octets in lines are read line by line;
* `Utf8.StripsTo`: octets without blanks at their ends;
* `Utf8.stripsTo_iff`: they are those of the text without blanks at its ends.
-/

namespace Mailroom

theorem Text.IsEncodable.trim {t : Text} (h : t.IsEncodable) : t.trim.IsEncodable := by
  obtain ⟨l, r, whole, -⟩ := exists_blanks t
  rw [whole] at h
  exact fun c hc => h c (List.mem_append_left r (List.mem_append_right l hc))

namespace Utf8

/-- The octets of a text that has some. -/
def octetsOf (t : Text) : Octets := (encode? t).getD []

/-- The text that is read of the octets of a text. -/
def reread (t : Text) : Text := decodeKeeping (octetsOf t)

variable {s t : Text}

theorem encode?_eq_octetsOf (encodable : t.IsEncodable) : encode? t = some (octetsOf t) := by
  obtain ⟨octets, e⟩ := exists_encode?_iff.2 encodable
  rw [octetsOf, e]
  rfl

theorem encode?_eq_some_iff {octets : Octets} :
    encode? t = some octets ↔ t.IsEncodable ∧ octets = octetsOf t := by
  constructor
  · intro e
    exact ⟨exists_encode?_iff.1 ⟨octets, e⟩, by rw [octetsOf, e]; rfl⟩
  · rintro ⟨encodable, rfl⟩
    exact encode?_eq_octetsOf encodable

theorem octetsOf_decodeKeeping (octets : Octets) : octetsOf (decodeKeeping octets) = octets := by
  rw [octetsOf, encode?_decodeKeeping]
  rfl

theorem octetsOf_append (hs : s.IsEncodable) (ht : t.IsEncodable) :
    octetsOf (s ++ t) = octetsOf s ++ octetsOf t := by
  rw [octetsOf, encode?_append, encode?_eq_octetsOf hs, encode?_eq_octetsOf ht]
  rfl

theorem octetsOf_of_plain (plain : ∀ c ∈ t, c.isSurrogate = false) :
    octetsOf t = encodeDropping t := by
  rw [octetsOf, encode?_of_plain plain]
  rfl

theorem octetsOf_eq_nil_iff (encodable : t.IsEncodable) : octetsOf t = [] ↔ t = [] := by
  refine ⟨fun none => ?_, fun h => h ▸ rfl⟩
  cases t with
  | nil => rfl
  | cons c t =>
    obtain ⟨first, hfirst⟩ := exists_encodeOne?_iff.2 (encodable c List.mem_cons_self)
    have e := encode?_eq_octetsOf encodable
    rw [none, encode?_cons, hfirst] at e
    obtain ⟨others, -, whole⟩ := Option.map_eq_some_iff.1 e
    rcases encodeOne?_cases hfirst with ⟨-, rfl⟩ | ⟨-, nonempty, -⟩
    · cases whole
    · exact absurd (List.append_eq_nil_iff.1 whole).1 nonempty

/-- A text is read again as it is exactly if it is what is read of some octets. -/
theorem reread_eq_self_iff : reread t = t ↔ ∃ octets, t = decodeKeeping octets := by
  constructor
  · exact fun same => ⟨octetsOf t, same.symm⟩
  · rintro ⟨octets, rfl⟩
    rw [reread, octetsOf_decodeKeeping]

theorem isEncodable_reread (t : Text) : (reread t).IsEncodable := isEncodable_decodeKeeping _

theorem isUnbroken_reread (encodable : t.IsEncodable) (h : t.IsUnbroken) :
    (reread t).IsUnbroken :=
  isUnbroken_decodeKeeping ((isUnbroken_encode? (encode?_eq_octetsOf encodable)).2 h)

/-- A text has the octets of what is left of it without blanks exactly if it has no blanks to
lose. -/
theorem octetsOf_trim_eq_iff (encodable : t.IsEncodable) :
    octetsOf t.trim = octetsOf t ↔ t.IsTrimmed := by
  constructor
  · intro same
    obtain ⟨l, r, whole, -, -, trimmed⟩ := Text.exists_blanks t
    rw [whole, Text.IsEncodable, List.forall_mem_append, List.forall_mem_append] at encodable
    obtain ⟨⟨hl, hm⟩, hr⟩ := encodable
    have parts : octetsOf t = octetsOf l ++ octetsOf t.trim ++ octetsOf r := by
      rw [← octetsOf_append hl hm, ← octetsOf_append (List.forall_mem_append.2 ⟨hl, hm⟩) hr, ← whole]
    -- the blanks on the left and on the right have no octets, so there are none
    have lengths := congrArg List.length parts
    rw [← same, List.length_append, List.length_append] at lengths
    have left : l = [] := (octetsOf_eq_nil_iff hl).1 (List.length_eq_zero_iff.1 (by omega))
    have right : r = [] := (octetsOf_eq_nil_iff hr).1 (List.length_eq_zero_iff.1 (by omega))
    rw [left, right, List.nil_append, List.append_nil] at whole
    rw [whole]
    exact trimmed
  · intro trimmed
    rw [Text.trim_eq_self_iff.2 trimmed]

end Utf8

/-! ### Joined texts -/

theorem Text.isEncodable_append {s t : Text} :
    IsEncodable (s ++ t) ↔ s.IsEncodable ∧ t.IsEncodable := List.forall_mem_append

/-- Joined texts have octets exactly if each of them has. -/
theorem Text.isEncodable_join_iff {separator : Text} (h : separator.IsEncodable)
    {texts : List Text} :
    (join separator texts).IsEncodable ↔ ∀ t ∈ texts, t.IsEncodable := by
  induction texts with
  | nil => exact iff_of_true (fun c hc => by cases hc) (fun t ht => by cases ht)
  | cons t texts ih =>
    rw [List.forall_mem_cons, ← ih]
    cases texts with
    | nil => exact (and_iff_left fun c hc => by cases hc).symm
    | cons u texts => rw [join, isEncodable_append, isEncodable_append, and_iff_left h]

namespace Utf8

theorem octetsOf_join {separator : Text} (h : separator.IsEncodable) {texts : List Text}
    (encodable : ∀ t ∈ texts, t.IsEncodable) :
    octetsOf (Text.join separator texts) =
      (octetsOf separator).intercalate (texts.map octetsOf) := by
  induction texts with
  | nil => rfl
  | cons t texts ih =>
    rw [List.forall_mem_cons] at encodable
    cases texts with
    | nil => simp [Text.join, List.intercalate]
    | cons u texts =>
      have later := ih encodable.2
      rw [Text.join, octetsOf_append (Text.isEncodable_append.2 ⟨encodable.1, h⟩)
        ((Text.isEncodable_join_iff h).2 encodable.2), octetsOf_append encodable.1 h, later]
      simp [List.intercalate]

/-- Lines have octets exactly if each of them has. -/
theorem encode?_join_eq_some_iff {lines : List Text} {octets : Octets} :
    encode? (Text.join "\r\n" lines) = some octets ↔
      (∀ line ∈ lines, line.IsEncodable) ∧ octets = Framing.join (lines.map octetsOf) := by
  have ends : (Text.ofString "\r\n").IsEncodable := by decide
  rw [encode?_eq_some_iff, Text.isEncodable_join_iff ends]
  refine and_congr_right fun encodable => ?_
  rw [octetsOf_join ends encodable]
  rfl

/-- Octets in lines are read line by line. -/
theorem decodeKeeping_join (lines : List Octets) :
    decodeKeeping (Framing.join lines) = Text.join "\r\n" (lines.map decodeKeeping) := by
  induction lines with
  | nil => rfl
  | cons line lines ih =>
    cases lines with
    | nil => simp [Framing.join, List.intercalate, Text.join]
    | cons next lines =>
      have ends : decodeKeeping (0x0D :: 0x0A :: Framing.join (next :: lines)) =
          Text.ofString "\r\n" ++ decodeKeeping (Framing.join (next :: lines)) :=
        decodeKeeping_encodeDropping_append (t := Text.ofString "\r\n") (by decide) _
      rw [Framing.join_cons_cons, decodeKeeping_append line, ends, ih]
      · exact (List.append_assoc _ _ _).symm
      · intro b hb
        rw [← Option.some.inj hb]
        exact .inl (by decide)

end Utf8

/-! ### Blanks at the ends -/

theorem CodePoint.isSurrogate_of_isBlank {c : CodePoint} (h : c.isBlank = true) :
    c.isSurrogate = false := by
  simp only [isBlank, blankRuns, inRuns, Bool.and_eq_true, Bool.or_eq_true, decide_eq_true_eq,
    Bool.false_eq_true, or_false] at h
  simp only [isSurrogate, within, Bool.and_eq_false_iff, decide_eq_false_iff_not]
  omega

namespace Utf8

/-- Octets come apart where a text does that is read of them, if the outer parts have no
surrogates. -/
theorem octets_eq_of_decodeKeeping_eq {octets : Octets} {l t r : Text}
    (whole : decodeKeeping octets = l ++ t ++ r) (left : ∀ c ∈ l, c.isSurrogate = false)
    (right : ∀ c ∈ r, c.isSurrogate = false) :
    octets = encodeDropping l ++ octetsOf t ++ encodeDropping r ∧ reread t = t := by
  have encodable := isEncodable_decodeKeeping octets
  rw [whole, Text.IsEncodable, List.forall_mem_append, List.forall_mem_append] at encodable
  obtain ⟨⟨hl, ht⟩, hr⟩ := encodable
  have parts : octets = encodeDropping l ++ octetsOf t ++ encodeDropping r := by
    rw [← octetsOf_of_plain left, ← octetsOf_of_plain right, ← octetsOf_append hl ht,
      ← octetsOf_append (List.forall_mem_append.2 ⟨hl, ht⟩) hr, ← whole, octetsOf_decodeKeeping]
  refine ⟨parts, ?_⟩
  -- a text without surrogates is read apart from what stands before and after it
  rw [parts, decodeKeeping_append_encodeDropping right,
    decodeKeeping_encodeDropping_append left] at whole
  exact List.append_cancel_left (List.append_cancel_right whole)

/-- The octets are some others between blanks, which are read as what is left of the text between
blanks. -/
def StripsTo (octets core : Octets) : Prop :=
  ∃ left right, octets = left ++ core ++ right ∧ (decodeKeeping left).isBlank = true ∧
    (decodeKeeping right).isBlank = true ∧ decodeKeeping core = (decodeKeeping octets).trim

/-- Blanks are whole characters, so that what is left between them has been read apart from
them. -/
theorem stripsTo_iff {octets core : Octets} :
    StripsTo octets core ↔ core = octetsOf (decodeKeeping octets).trim := by
  constructor
  · rintro ⟨left, right, -, -, -, middle⟩
    rw [← middle, octetsOf_decodeKeeping]
  · rintro rfl
    obtain ⟨l, r, whole, hl, hr, -⟩ := Text.exists_blanks (decodeKeeping octets)
    have left : ∀ c ∈ l, c.isSurrogate = false := fun c hc =>
      CodePoint.isSurrogate_of_isBlank (List.all_eq_true.1 hl c hc)
    have right : ∀ c ∈ r, c.isSurrogate = false := fun c hc =>
      CodePoint.isSurrogate_of_isBlank (List.all_eq_true.1 hr c hc)
    obtain ⟨parts, middle⟩ := octets_eq_of_decodeKeeping_eq whole left right
    exact ⟨_, _, parts, by rwa [decodeKeeping_encodeDropping left],
      by rwa [decodeKeeping_encodeDropping right], middle⟩

end Utf8

end Mailroom
