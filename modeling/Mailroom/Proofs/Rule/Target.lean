import Mailroom.Proofs.Routing.Injection

/-!
# Names for a rewrite

A header is rewritten under a name that has been checked. The check is for a token, but it passes
over one line feed at the end, and canonical form keeps that line feed. Actions are safe from it, as
they take the blanks around a name away; a name that is set as it stands is not.

* `FieldName.isTokenChar_iff`: tokens are made of what can be seen and is no delimiter;
* `FieldName.canonical_eq_recased`: the canonical form of a field name, code point by code point;
* `FieldName.isKeyOf_canonical`: it is a token, without colon and blank, exactly if the name is one;
* `Header.isLineByLine_set_iff`: a header in which a field is set goes out line by line exactly if
  the name of the field is a token;
* `FieldName.accepted_names`: all of this for a name that is accepted.
-/

namespace Mailroom

namespace FieldName

variable {t : Text}

/-! ### Tokens -/

/-- The visible ASCII code points that divide a field into parts. -/
def delimiters : Text := "\"(),/:;<=>?@[\\]\x7b\x7d"

/-- **What a token is made of**: the visible ASCII code points that are no delimiters. -/
theorem isTokenChar_iff {c : CodePoint} :
    isTokenChar c = true ↔ 0x21 ≤ c.val ∧ c.val ≤ 0x7E ∧ c ∉ delimiters := by
  have all : ∀ c : CodePoint, c.isAscii = true →
      (isTokenChar c = true ↔ 0x21 ≤ c.val ∧ c.val ≤ 0x7E ∧ c ∉ delimiters) := by
    decide +kernel
  constructor
  · exact fun token => (all c (isAscii_of_isTokenChar token)).1 token
  · exact fun visible => (all c (decide_eq_true (by omega))).2 visible

/-! ### Canonical form, code point by code point -/

/-- Capitals at the beginning, if there is one here, and after hyphens, and small letters
elsewhere. -/
def recased (atStart : Bool) : Text → Text
  | [] => []
  | c :: t => (if atStart then c.toAsciiUpper else c.toLower) :: recased (c = CodePoint.ofChar '-') t

/-- The parts of an ASCII text put together again, the first one capitalized only if it is a
beginning. -/
theorem exists_join_eq_recased (ascii : t.isAscii = true) (atStart : Bool) :
    ∃ part parts, Text.splitOn '-' t = part :: parts ∧
      Text.join "-" ((if atStart then capitalized part else Text.lower part) ::
        parts.map capitalized) = recased atStart t := by
  induction t generalizing atStart with
  | nil => exact ⟨[], [], rfl, by cases atStart <;> rfl⟩
  | cons c t ih =>
    rw [Text.isAscii_cons] at ascii
    obtain ⟨part, parts, split, cut⟩ := Text.splitOn_cons '-' c t
    by_cases hyphen : c = CodePoint.ofChar '-'
    · -- the first part is empty, and the next one is a beginning
      rw [if_pos hyphen] at cut
      refine ⟨[], part :: parts, cut, ?_⟩
      obtain ⟨_, _, split', whole⟩ := ih ascii.2 true
      rw [split, List.cons.injEq] at split'
      obtain ⟨rfl, rfl⟩ := split'
      rw [recased, hyphen, decide_eq_true rfl, ← whole]
      cases atStart <;> rfl
    · -- the code point comes before what is no beginning
      rw [if_neg hyphen] at cut
      refine ⟨c :: part, parts, cut, ?_⟩
      obtain ⟨_, _, split', whole⟩ := ih ascii.2 false
      rw [split, List.cons.injEq] at split'
      obtain ⟨rfl, rfl⟩ := split'
      have inside : part.isAscii = true := List.all_eq_true.2 fun d hd =>
        List.all_eq_true.1 ascii.2 d (Text.mem_of_mem_splitOn (split ▸ List.mem_cons_self) hd)
      have first : (if atStart then capitalized (c :: part) else Text.lower (c :: part)) =
          (if atStart then c.toAsciiUpper else c.toLower) :: Text.lower part := by
        cases atStart
        · have both : Text.isAscii (c :: part) = true := Text.isAscii_cons.2 ⟨ascii.1, inside⟩
          exact (Text.lower_of_isAscii both).trans
            (congrArg (c.toLower :: ·) (Text.lower_of_isAscii inside).symm)
        · rfl
      rw [first, recased, decide_eq_false hyphen, ← whole]
      cases parts <;> rfl

/-- **The canonical form of a field name** has capitals at the beginning and after hyphens. -/
theorem canonical_eq_recased (valid : isValid t = true) : canonical t = recased true t := by
  obtain ⟨part, parts, split, whole⟩ := exists_join_eq_recased (isAscii_of_isValid valid) true
  rw [canonical, if_pos valid, split, ← whole]
  rfl

/-- The same code point, or one ASCII letter in its two cases. -/
def SameLetter (c d : CodePoint) : Prop :=
  c = d ∨ (c.isAsciiLower = true ∧ c.val = d.val + 0x20) ∨
    (c.isAsciiUpper = true ∧ c.val + 0x20 = d.val)

instance (c d : CodePoint) : Decidable (SameLetter c d) := inferInstanceAs (Decidable (_ ∨ _))

theorem sameLetter_of_respells {c d : CodePoint} (ascii : c.isAscii = true) (h : Respells c d) :
    SameLetter c d := by
  have all : ∀ c : CodePoint, c.isAscii = true →
      SameLetter c c.toAsciiUpper ∧ SameLetter c c.toLower := by
    decide +kernel
  rcases h with rfl | rfl
  · exact (all c ascii).1
  · exact (all c ascii).2

/-- What a field is stored under: the letters of its name in other cases. There is no colon and no
blank in it exactly if the name is a token. -/
structure IsKeyOf (key t : Text) : Prop where
  recased : key = recased true t
  length : key.length = t.length
  letters : List.Forall₂ SameLetter t key
  token : isToken key = true ↔ isToken t = true
  plain : (∀ c ∈ key, c ≠ CodePoint.ofChar ':' ∧ c.isBlank = false) ↔ isToken t = true

/-- A line feed in a field name is there in canonical form as well. -/
theorem lineFeed_mem_canonical (valid : isValid t = true) (feed : CodePoint.ofChar '\n' ∈ t) :
    CodePoint.ofChar '\n' ∈ canonical t := by
  obtain ⟨d, hd, respelt⟩ :=
    exists_respells_of_mem (respells_canonical (isAscii_of_isValid valid)) feed
  have same : d = CodePoint.ofChar '\n' := by rcases respelt with rfl | rfl <;> decide
  exact same ▸ hd

/-- What is a field name but no token has a line feed in it. -/
theorem lineFeed_mem (valid : isValid t = true) (token : ¬ isToken t = true) :
    CodePoint.ofChar '\n' ∈ t := by
  obtain ⟨s, -, rfl⟩ := (isValid_iff.1 valid).resolve_left token
  exact List.mem_append_right s List.mem_cons_self

theorem isKeyOf_canonical (valid : isValid t = true) : IsKeyOf (canonical t) t := by
  have ascii := isAscii_of_isValid valid
  have respelt := respells_canonical ascii
  have same : isToken t = isToken (canonical t) := isToken_congr (sameKind_of_forall₂ ascii respelt)
  have letters := forall₂_of_respells (fun _ _ => sameLetter_of_respells) ascii respelt
  refine ⟨canonical_eq_recased valid, respelt.length_eq.symm, letters, by rw [same], ?_⟩
  constructor
  · intro plain
    by_contra token
    have unblank := (plain _ (lineFeed_mem_canonical valid (lineFeed_mem valid token))).2
    exact absurd unblank (by decide)
  · intro token c hc
    have char := (isToken_iff.1 (same ▸ token)).2 c hc
    exact ⟨ne_of_isTokenChar char (by decide), not_isBlank_of_isTokenChar char⟩

end FieldName

/-! ### Headers in which a field is set -/

namespace Header

/-- No field with a line feed in its name is hidden. -/
theorem isHidden_of_lineFeed_mem {t : Text} (valid : FieldName.isValid t = true)
    (feed : CodePoint.ofChar '\n' ∈ t) : isHidden (FieldName.canonical t) = false := by
  have ascii := FieldName.isAscii_of_isValid valid
  have small : CodePoint.ofChar '\n' ∈ Text.lower t := by
    rw [Text.lower_of_isAscii ascii]
    exact List.mem_map.2 ⟨_, feed, by decide⟩
  rw [isHidden, FieldName.lower_canonical ascii, decide_eq_false_iff_not]
  intro bcc
  rw [bcc] at small
  exact absurd small (by decide)

/-- **A header in which a field is set goes out line by line**, if it did before, exactly if the
name of the field is a token. -/
theorem isLineByLine_set_iff {h h' : Header} {t value : Text} {head : Octets}
    (valid : FieldName.isValid t = true)
    (unbroken : ∀ f ∈ h.fields, f.name.IsUnbroken ∧ f.first.IsUnbroken)
    (whole : value.IsUnbroken) (e : h.set t value = .ok h') (nonempty : h'.written ≠ [])
    (written : h'.write? = some head) :
    h'.IsLineByLine head ↔ FieldName.isToken t = true := by
  have fields : h'.fields = replaceValues (FieldName.canonical t) value h.fields := by
    unfold Header.set at e
    split at e <;> cases e
    rfl
  refine (crlfLines_write?_iff written nonempty).trans ⟨fun each => ?_, fun token f hf => ?_⟩
  · by_contra token
    have feed := FieldName.lineFeed_mem valid token
    have found := lookup?_replaceValues (FieldName.canonical t) value (FieldName.canonical t) h.fields
    rw [if_pos rfl] at found
    have shown := mem_written.2 ⟨fields ▸ mem_of_lookup? found, isHidden_of_lineFeed_mem valid feed⟩
    exact (each _ shown).1 _ (FieldName.lineFeed_mem_canonical valid feed) (.inr rfl)
  · rcases mem_replaceValues (fields ▸ (mem_written.1 hf).1) with rfl | hf
    · have name := FieldName.isName_of_isToken (FieldName.isToken_canonical token)
      exact ⟨fun c hc => (name c hc).2.2.2, whole⟩
    · exact unbroken f hf

end Header

namespace FieldName

/-- **Which names are accepted for a rewrite**: tokens, of which there is at least one code point and
nothing but what is visible and no delimiter, and tokens with one line feed behind them. A field is
stored under the letters of its name in other cases, without colon and blank exactly if the name is
a token. That is so of the field of every action. A header in which a field is set under such a
name, and which has no other breaks, goes out line by line under the same condition. -/
theorem accepted_names (t : Text) :
    (isToken t = true ↔ t ≠ [] ∧ ∀ c ∈ t, 0x21 ≤ c.val ∧ c.val ≤ 0x7E ∧ c ∉ delimiters) ∧
    (isValid t = true ↔
      isToken t = true ∨ ∃ s, isToken s = true ∧ t = s ++ Text.ofString "\n") ∧
    (isValid t = true → IsKeyOf (canonical t) t) ∧
    (∀ line a, Action.parse line = .ok a → a.field = t → isToken t = true) ∧
    ∀ h h' : Header, ∀ value head, isValid t = true → h.set t value = .ok h' →
      (∀ f ∈ h.fields, f.name.IsUnbroken ∧ f.first.IsUnbroken) → value.IsUnbroken →
      h'.written ≠ [] → h'.write? = some head →
        (h'.IsLineByLine head ↔ isToken t = true) := by
  refine ⟨?_, isValid_iff, isKeyOf_canonical, ?_, ?_⟩
  · rw [isToken_iff]
    exact and_congr_right' (forall₂_congr fun c _ => isTokenChar_iff)
  · rintro line a parses rfl
    exact Action.isToken_of_parse parses
  · intro h h' value head valid set unbroken whole nonempty written
    exact Header.isLineByLine_set_iff valid unbroken whole set nonempty written

/-- A name with a blank behind it is that of an action without the blank; set in a header, its field
goes out on a line of its own. -/
theorem replyTo_accepted :
    let t : Text := "reply-TO"
    let h : Header := ⟨[⟨"Subject", "s", []⟩], false, 1⟩
    Action.parse "SetHeader reply-TO :x" = .ok ⟨t, "x"⟩ ∧ isToken t = true ∧ isValid t = true ∧
      IsKeyOf "Reply-To" t ∧
      ∃ h' head, h.set t "a@b.c" = .ok h' ∧ h'.write? = some head ∧ h'.IsLineByLine head := by
  intro t h
  obtain ⟨-, accepted, key, action, line⟩ := accepted_names t
  have parses : Action.parse "SetHeader reply-TO :x" = .ok ⟨t, "x"⟩ := by decide +kernel
  have token := action _ _ parses rfl
  have valid := accepted.2 (.inl token)
  have form : canonical t = Text.ofString "Reply-To" := by decide +kernel
  refine ⟨parses, token, valid, form ▸ key valid, _, _, rfl, rfl, ?_⟩
  exact (line h _ "a@b.c" _ valid rfl (by decide) (by decide) (by decide +kernel) rfl).2 token

/-- A name with a line feed behind it is accepted although it is no token, keeps the line feed in
canonical form, and puts it before the colon of the line that is written. -/
theorem brokenName_accepted :
    let t : Text := "note\n"
    isValid t = true ∧ ¬ (t ≠ [] ∧ ∀ c ∈ t, isTokenChar c = true) ∧
      canonical t = Text.ofString "Note\n" ∧ isToken (canonical t) = false ∧
      ∃ h, Header.empty.set t "v" = .ok h ∧ h.write? = some (Utf8.encodeDropping "Note\n: v") := by
  exact ⟨by decide, by decide, by decide +kernel, by decide +kernel, _, rfl, by decide +kernel⟩

end FieldName

end Mailroom
