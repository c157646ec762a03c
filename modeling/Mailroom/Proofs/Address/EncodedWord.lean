import Mailroom.Address.EncodedWord
import Mailroom.Proofs.Base64
import Mailroom.Proofs.Text.Split
import Mailroom.Proofs.Text.Utf8

/-!
# Reading encoded words back

* `Text.cutPair?_append`: a cut behind a text without the mark;
* `EncodedWord.IsLetters`: what may stand for octets between the marks;
* `EncodedWord.decodeQuoted_letters`: letters of the quoted form are read as what they stand for;
* `EncodedWord.read?_encode`: an encoded word is read as the text it was made from.
-/

namespace Mailroom

namespace Text

theorem cutPair?_append {a b : CodePoint} {s : Text} (h : a ∉ s) (t : Text) :
    cutPair? a b (s ++ t) = (cutPair? a b t).map fun (before, after) => (s ++ before, after) := by
  induction s with
  | nil =>
    rw [List.nil_append]
    cases cutPair? a b t <;> rfl
  | cons c s ih =>
    rw [List.mem_cons, not_or] at h
    have here : (c = a && (s ++ t).head? = some b) = false := by simp [Ne.symm h.1]
    rw [List.cons_append, cutPair?, here, ih h.2]
    cases cutPair? a b t <;> rfl

theorem cutPair?_pair (a b : CodePoint) (t : Text) : cutPair? a b (a :: b :: t) = some ([], t) := by
  simp [cutPair?]

theorem hasInnerBlank_eq_false {t : Text} (h : ∀ c ∈ t, c.isBlank = false) :
    t.hasInnerBlank = false := by
  refine List.any_eq_false.2 fun c hc => ?_
  unfold trim trimWhere trimRightWhere trimLeftWhere at hc
  have : c ∈ t := (List.dropWhile_sublist _).subset
    (List.mem_reverse.1 ((List.dropWhile_sublist _).subset (List.mem_reverse.1 hc)))
  simp [h c this]

end Text

namespace EncodedWord

/-! ### Letters -/

/-- The octets of letters. -/
def codes (t : Text) : Octets := t.map fun c => UInt8.ofNat c.val

theorem octets?_eq_codes {t : Text} (h : ∀ c ∈ t, c.isAscii = true) :
    octets? t = some (codes t) := by
  unfold octets? codes
  induction t with
  | nil => rfl
  | cons c t ih =>
    rw [List.forall_mem_cons] at h
    rw [List.mapM_cons, if_pos h.1, ih h.2]
    rfl

/-- A letter between the marks: ASCII, but no blank and no question mark. -/
def IsLetter (c : CodePoint) : Prop :=
  c.isAscii = true ∧ c.isBlank = false ∧ c ≠ CodePoint.ofChar '?'

instance (c : CodePoint) : Decidable (IsLetter c) := inferInstanceAs (Decidable (_ ∧ _ ∧ _))

/-- What may stand for octets between the marks: letters, and hexadecimal digits after an equals
sign at the beginning. -/
structure IsLetters (t : Text) : Prop where
  letter : ∀ c ∈ t, IsLetter c
  escaped : ∀ t', t = CodePoint.ofChar '=' :: t' → ∃ x y t'', t' = x :: y :: t'' ∧
    x.hexValue?.isSome = true ∧ y.hexValue?.isSome = true

theorem isLetters_base64 (octets : Octets) : IsLetters (Base64.encode octets) where
  letter := by
    have letter : ∀ value, IsLetter (Base64.letter value) := by
      have letters : ∀ c ∈ Base64.alphabet, IsLetter c := by decide +kernel
      intro value
      unfold Base64.letter
      cases found : Base64.alphabet[value]? with
      | none => decide
      | some c => exact letters c (List.mem_of_getElem? found)
    have pad : IsLetter (CodePoint.ofChar '=') := by decide
    fun_induction Base64.encode octets with
    | case1 => exact fun c hc => (by cases hc)
    | case2 a x => simp [letter, pad]
    | case3 a b x y => simp [letter, pad]
    | case4 a b c rest x y z ih => simpa [letter] using ih
  escaped := fun t' e => by
    have := Base64.head?_codes octets
    rw [Base64.codes, e] at this
    exact absurd rfl this

/-- Letters of the quoted form that stand for an octet. -/
def standFor (b : UInt8) : Text → Bool
  | [c] => decide (IsLetter c) && c != CodePoint.ofChar '=' &&
      (if c.val == 0x5F then (0x20 : UInt8) else UInt8.ofNat c.val) == b
  | [c, x, y] => c == CodePoint.ofChar '=' && decide (IsLetter x) && decide (IsLetter y) &&
      (match x.hexValue?, y.hexValue? with
      | some high, some low => UInt8.ofNat (high * 16 + low) == b
      | _, _ => false)
  | _ => false

/-- Either a letter stands for itself or for a space, or the number of an octet is given. -/
theorem standFor_cases {b : UInt8} {t : Text} (h : standFor b t = true) :
    (∃ c, t = [c] ∧ IsLetter c ∧ c ≠ CodePoint.ofChar '=' ∧
        (if c.val == 0x5F then (0x20 : UInt8) else UInt8.ofNat c.val) = b) ∨
      ∃ x y high low, t = [CodePoint.ofChar '=', x, y] ∧ IsLetter x ∧ IsLetter y ∧
        x.hexValue? = some high ∧ y.hexValue? = some low ∧ UInt8.ofNat (high * 16 + low) = b := by
  unfold standFor at h
  split at h
  · next c =>
    simp only [Bool.and_eq_true, decide_eq_true_eq, bne_iff_ne, beq_iff_eq] at h
    exact .inl ⟨c, rfl, h.1.1, h.1.2, by simpa using h.2⟩
  · next c x y =>
    simp only [Bool.and_eq_true, decide_eq_true_eq, beq_iff_eq] at h
    obtain ⟨⟨⟨rfl, hx⟩, hy⟩, h⟩ := h
    split at h
    · next high low e e' => exact .inr ⟨x, y, high, low, rfl, hx, hy, e, e', by simpa using h⟩
    · cases h
  · cases h

theorem standFor_quotedLetters (b : UInt8) : standFor b (quotedLetters b) = true := by
  have all : ∀ n < 256, standFor (UInt8.ofNat n) (quotedLetters (UInt8.ofNat n)) = true := by
    decide +kernel
  have := all b.toNat b.toNat_lt
  rwa [UInt8.ofNat_toNat] at this

theorem toNat_ofNat_of_isLetter {c : CodePoint} (h : IsLetter c) :
    (UInt8.ofNat c.val).toNat = c.val := by
  have : c.val < 0x80 := of_decide_eq_true h.1
  exact UInt8.toNat_ofNat_of_lt' (show c.val < 256 by omega)

theorem ofNat_toNat_of_isLetter {c : CodePoint} (h : IsLetter c) :
    CodePoint.ofNat (UInt8.ofNat c.val).toNat = c := by
  rw [toNat_ofNat_of_isLetter h, CodePoint.ofNat, dif_pos c.isLt]

theorem decodeQuoted_cons_of_ne {b : UInt8} (sign : b.toNat ≠ 0x3D) (rest : Octets) :
    decodeQuoted (b :: rest) =
      (if b.toNat == 0x5F then (0x20 : UInt8) else b) :: decodeQuoted rest := by
  conv =>
    lhs
    unfold decodeQuoted
  simp only [sign, if_false]

/-- Letters that stand for an octet are read as that octet. -/
theorem decodeQuoted_append {b : UInt8} {t : Text} (h : standFor b t = true) (rest : Octets) :
    decodeQuoted (codes t ++ rest) = b :: decodeQuoted rest := by
  rcases standFor_cases h with ⟨c, rfl, letter, sign, stands⟩ |
    ⟨x, y, high, low, rfl, hx, hy, ex, ey, stands⟩
  · have e := toNat_ofNat_of_isLetter letter
    have sign : (UInt8.ofNat c.val).toNat ≠ 0x3D := by
      rw [e]
      exact fun h => sign (CodePoint.ext h)
    rw [codes, List.map_singleton, List.singleton_append, decodeQuoted_cons_of_ne sign, e, stands]
  · show decodeQuoted (0x3D :: UInt8.ofNat x.val :: UInt8.ofNat y.val :: rest) = _
    rw [decodeQuoted, if_pos (by rfl)]
    simp only [ofNat_toNat_of_isLetter hx, ofNat_toNat_of_isLetter hy, ex, ey]
    rw [stands]

/-- **Letters of the quoted form are read as what they stand for.** -/
theorem decodeQuoted_letters (octets : Octets) :
    decodeQuoted (codes (octets.flatMap quotedLetters)) = octets := by
  induction octets with
  | nil => rfl
  | cons b octets ih =>
    rw [List.flatMap_cons, codes, List.map_append]
    exact (decodeQuoted_append (standFor_quotedLetters b) _).trans (congrArg (b :: ·) ih)

theorem isLetters_quoted (octets : Octets) : IsLetters (octets.flatMap quotedLetters) where
  letter := fun c hc => by
    obtain ⟨b, -, hc⟩ := List.mem_flatMap.1 hc
    rcases standFor_cases (standFor_quotedLetters b) with ⟨d, e, letter, -⟩ |
      ⟨x, y, -, -, e, hx, hy, -⟩
    · rw [e, List.mem_singleton] at hc
      rw [hc]
      exact letter
    · rw [e] at hc
      have sign : IsLetter (CodePoint.ofChar '=') := by decide
      simp only [List.mem_cons, List.not_mem_nil, or_false] at hc
      rcases hc with rfl | rfl | rfl
      · exact sign
      · exact hx
      · exact hy
  escaped := fun t' e => by
    cases octets with
    | nil => cases e
    | cons b octets =>
      rw [List.flatMap_cons] at e
      rcases standFor_cases (standFor_quotedLetters b) with ⟨c, eb, -, sign, -⟩ |
        ⟨x, y, high, low, eb, -, -, ex, ey, -⟩
      · rw [eb] at e
        exact absurd (List.cons.inj e).1 sign
      · rw [eb] at e
        exact ⟨x, y, _, (List.cons.inj e).2.symm, by rw [ex]; rfl, by rw [ey]; rfl⟩

/-! ### Whole words -/

/-- The part between the outer marks, for an encoding and letters in it. -/
def inside (encoding : CodePoint) (letters : Text) : Text :=
  Text.ofString "utf-8" ++ CodePoint.ofChar '?' :: encoding :: CodePoint.ofChar '?' :: letters

theorem cutPair?_inside {encoding : CodePoint} (he : IsLetter encoding)
    (sign : encoding ≠ CodePoint.ofChar '=') (t : Text) :
    Text.cutPair? (CodePoint.ofChar '?') (CodePoint.ofChar '=')
        (Text.ofString "utf-8" ++ CodePoint.ofChar '?' :: encoding :: t) =
      (Text.cutPair? (CodePoint.ofChar '?') (CodePoint.ofChar '=') t).map fun (before, after) =>
        (Text.ofString "utf-8" ++ CodePoint.ofChar '?' :: encoding :: before, after) := by
  have apart : CodePoint.ofChar '?' ∉ Text.ofString "utf-8" := by decide
  have step : Text.cutPair? (CodePoint.ofChar '?') (CodePoint.ofChar '=')
      (CodePoint.ofChar '?' :: encoding :: t) =
      (Text.cutPair? (CodePoint.ofChar '?') (CodePoint.ofChar '=') t).map fun (before, after) =>
        (CodePoint.ofChar '?' :: encoding :: before, after) := by
    rw [Text.cutPair?, if_neg (by simp [sign]), Text.cutPair?, if_neg (by simp [he.2.2])]
    cases Text.cutPair? (CodePoint.ofChar '?') (CodePoint.ofChar '=') t <;> rfl
  rw [Text.cutPair?_append apart, step]
  rcases Text.cutPair? (CodePoint.ofChar '?') (CodePoint.ofChar '=') t with _ | ⟨before, after⟩ <;>
    rfl

theorem inside_append (encoding : CodePoint) (letters t : Text) :
    inside encoding letters ++ t = Text.ofString "utf-8" ++
      CodePoint.ofChar '?' :: encoding :: CodePoint.ofChar '?' :: (letters ++ t) := by
  simp [inside]

/-- Letters that begin with an equals sign seem to end the part, but hexadecimal digits follow and
one question mark is still to come. -/
theorem extent?_inside_escaped {encoding : CodePoint} (he : IsLetter encoding)
    (sign : encoding ≠ CodePoint.ofChar '=') {x y : CodePoint} {t : Text}
    (question : CodePoint.ofChar '?' ∉ x :: y :: t) (hx : x.hexValue?.isSome = true)
    (hy : y.hexValue?.isSome = true) (rest : Text) :
    extent? (inside encoding (CodePoint.ofChar '=' :: x :: y :: t) ++
        CodePoint.ofChar '?' :: CodePoint.ofChar '=' :: rest) =
      some (inside encoding (CodePoint.ofChar '=' :: x :: y :: t), rest) := by
  have one : (Text.ofString "utf-8" ++ [CodePoint.ofChar '?', encoding]).countP
      (fun c => c.val == 0x3F) < 2 := by
    have label : (Text.ofString "utf-8").countP (fun c => c.val == 0x3F) = 0 := by decide
    have here : (encoding.val == 0x3F) = false := CodePoint.val_beq_eq_false he.2.2
    rw [List.countP_append, label, List.countP_cons, List.countP_singleton, here]
    decide
  rw [inside_append, extent?, cutPair?_inside he sign, List.cons_append, Text.cutPair?_pair]
  simp only [Option.map_some, List.cons_append, hx, hy, one, Bool.and_self, decide_true, if_true]
  rw [← List.cons_append, ← List.cons_append, Text.cutPair?_append question, Text.cutPair?_pair]
  simp [inside, Text.ofString]

/-- Other letters come after two question marks, and the next one ends the part. -/
theorem extent?_inside_plain {encoding : CodePoint} (he : IsLetter encoding)
    (sign : encoding ≠ CodePoint.ofChar '=') {letters : Text}
    (question : CodePoint.ofChar '?' ∉ letters)
    (begins : letters.head? ≠ some (CodePoint.ofChar '=')) (rest : Text) :
    extent? (inside encoding letters ++ CodePoint.ofChar '?' :: CodePoint.ofChar '=' :: rest) =
      some (inside encoding letters, rest) := by
  have two : ¬ (inside encoding letters).countP (fun c => c.val == 0x3F) < 2 := by
    have mark : ((CodePoint.ofChar '?').val == 0x3F) = true := rfl
    simp only [inside, List.countP_append, List.countP_cons, mark, if_true]
    omega
  have next : (letters ++ CodePoint.ofChar '?' :: CodePoint.ofChar '=' :: rest).head? ≠
      some (CodePoint.ofChar '=') := by
    cases letters with
    | nil => exact fun h => absurd (Option.some.inj h) (by decide)
    | cons c letters => exact begins
  rw [inside_append, extent?, cutPair?_inside he sign, Text.cutPair?, if_neg (by simpa using next),
    Text.cutPair?_append question, Text.cutPair?_pair]
  have whole : Text.ofString "utf-8" ++ CodePoint.ofChar '?' :: encoding ::
      CodePoint.ofChar '?' :: (letters ++ []) = inside encoding letters := by simp [inside]
  simp only [Option.map_some, whole]
  split
  · rw [if_neg (by simp [two])]
  · rfl

/-- The part between the outer marks is found, whatever follows them. -/
theorem extent?_inside {encoding : CodePoint} (he : IsLetter encoding)
    (sign : encoding ≠ CodePoint.ofChar '=') {letters : Text} (hl : IsLetters letters)
    (rest : Text) :
    extent? (inside encoding letters ++ CodePoint.ofChar '?' :: CodePoint.ofChar '=' :: rest) =
      some (inside encoding letters, rest) := by
  have question : CodePoint.ofChar '?' ∉ letters := fun h => (hl.letter _ h).2.2 rfl
  by_cases begins : letters.head? = some (CodePoint.ofChar '=')
  · obtain ⟨t, rfl⟩ := List.head?_eq_some_iff.1 begins
    obtain ⟨x, y, t, rfl, hx, hy⟩ := hl.escaped t rfl
    exact extent?_inside_escaped he sign (fun h => question (List.mem_cons_of_mem _ h)) hx hy rest
  · exact extent?_inside_plain he sign question begins rest

/-- The part between the outer marks stands for what its letters do. -/
theorem decode?_inside {encoding : CodePoint} (he : IsLetter encoding) {letters : Text}
    (hl : IsLetters letters) :
    decode? (inside encoding letters) =
      if Text.lower [encoding] = Text.ofString "q" then
        some (Utf8.decodeKeeping (decodeQuoted (codes letters)))
      else if Text.lower [encoding] = Text.ofString "b" then
        some (Utf8.decodeKeeping (Base64.decodeTolerant (codes letters)))
      else none := by
  have question : CodePoint.ofChar '?' ∉ letters := fun h => (hl.letter _ h).2.2 rfl
  have split : Text.splitOn (CodePoint.ofChar '?') (inside encoding letters) =
      [Text.ofString "utf-8", [encoding], letters] := by
    have second := Text.splitOn_append (s := [encoding]) (by simpa using Ne.symm he.2.2) letters
    rw [Text.splitOn_of_not_mem question, List.singleton_append] at second
    rw [inside, Text.splitOn_append (by decide), second]
  have name : (Text.ofString "utf-8").takeWhile (fun c => c.val != 0x2A) =
      Text.ofString "utf-8" := by decide
  have charset : Charset.ofName? (Text.ofString "utf-8") = some .utf8 := rfl
  unfold decode?
  rw [split]
  have proper : ((Text.ofString "utf-8").any fun c => c.val == 0) = false := by decide
  have plain : (Text.ofString "utf-8").any CodePoint.isSurrogate = false := by decide
  simp only [octets?_eq_codes fun c hc => (hl.letter c hc).1, name, charset, proper, plain, bind,
    Option.bind, Bool.false_eq_true, if_false]
  split_ifs <;> rfl

theorem encode_head (octets : Octets) : ∃ t, encode octets = CodePoint.ofChar '=' :: t := by
  unfold encode
  dsimp only
  split <;> exact ⟨_, rfl⟩

/-- There is no blank between the outer marks. -/
theorem hasInnerBlank_inside {encoding : CodePoint} (he : IsLetter encoding) {letters : Text}
    (hl : IsLetters letters) : (inside encoding letters).hasInnerBlank = false := by
  have label : ∀ c ∈ Text.ofString "utf-8", IsLetter c := by decide +kernel
  have mark : (CodePoint.ofChar '?').isBlank = false := by decide
  refine Text.hasInnerBlank_eq_false fun c hc => ?_
  simp only [inside, List.mem_append, List.mem_cons] at hc
  rcases hc with hc | rfl | rfl | rfl | hc
  · exact (label c hc).2.1
  · exact mark
  · exact he.2.1
  · exact mark
  · exact (hl.letter c hc).2.1

/-- A word before a space is read as what its letters stand for. -/
theorem read?_inside {encoding : CodePoint} (he : IsLetter encoding)
    (sign : encoding ≠ CodePoint.ofChar '=') {letters text : Text} (hl : IsLetters letters)
    (decoded : decode? (inside encoding letters) = some text) (rest : Text) :
    read? (CodePoint.ofChar '=' :: CodePoint.ofChar '?' :: (inside encoding letters ++
        CodePoint.ofChar '?' :: CodePoint.ofChar '=' :: CodePoint.ofChar ' ' :: rest)) =
      some (⟨text, []⟩, CodePoint.ofChar ' ' :: rest) := by
  have space : Lexeme.headIs (fun c => !Lexeme.isSpace c) (CodePoint.ofChar ' ' :: rest) =
      false := rfl
  show (extent? (inside encoding letters ++ CodePoint.ofChar '?' :: CodePoint.ofChar '=' ::
    CodePoint.ofChar ' ' :: rest)).bind _ = _
  rw [extent?_inside he sign hl, Option.bind_some]
  simp only [decoded, hasInnerBlank_inside he hl, space, bind, Option.bind_some]
  rfl

/-- **An encoded word is read as the text it was made from.** -/
theorem read?_encode (octets : Octets) (rest : Text) :
    read? (encode octets ++ CodePoint.ofChar ' ' :: rest) =
      some (⟨Utf8.decodeKeeping octets, []⟩, CodePoint.ofChar ' ' :: rest) := by
  unfold encode
  dsimp only
  split
  · have written : Text.ofString "=?utf-8?b?" ++ Base64.encode octets ++ Text.ofString "?=" ++
        CodePoint.ofChar ' ' :: rest = CodePoint.ofChar '=' :: CodePoint.ofChar '?' ::
        (inside (CodePoint.ofChar 'b') (Base64.encode octets) ++ CodePoint.ofChar '?' ::
          CodePoint.ofChar '=' :: CodePoint.ofChar ' ' :: rest) := by
      simp [inside, Text.ofString]
    rw [written]
    have b : IsLetter (CodePoint.ofChar 'b') := by decide
    refine read?_inside b (by decide) (isLetters_base64 octets) ?_ rest
    rw [decode?_inside b (isLetters_base64 octets), if_neg (by decide), if_pos (by decide)]
    exact congrArg _ (congrArg _ (Base64.decodeTolerant_codes octets))
  · have written : Text.ofString "=?utf-8?q?" ++ octets.flatMap quotedLetters ++
        Text.ofString "?=" ++ CodePoint.ofChar ' ' :: rest =
        CodePoint.ofChar '=' :: CodePoint.ofChar '?' :: (inside (CodePoint.ofChar 'q')
          (octets.flatMap quotedLetters) ++ CodePoint.ofChar '?' :: CodePoint.ofChar '=' ::
          CodePoint.ofChar ' ' :: rest) := by
      simp [inside, Text.ofString]
    rw [written]
    have q : IsLetter (CodePoint.ofChar 'q') := by decide
    refine read?_inside q (by decide) (isLetters_quoted octets) ?_ rest
    rw [decode?_inside q (isLetters_quoted octets), if_pos (by decide), decodeQuoted_letters]

end EncodedWord

end Mailroom
