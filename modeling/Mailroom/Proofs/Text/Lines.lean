import Mailroom.Header.Writer
import Mailroom.Message.Framing

/-!
# Lines of octets

* `Octets.IsUnbroken`, `Text.IsUnbroken`: no carriage return and no line feed occurs;
* `Framing.crlfLines`: the pieces between carriage returns with a line feed after them;
* `Framing.crlfLines_join_iff`: lines that are joined come apart again exactly if none of them
  is broken itself;
* `Utf8.encode?_join`: joined texts are encoded line by line.
-/

namespace Mailroom

/-- No carriage return and no line feed occurs. -/
def Octets.IsUnbroken (octets : Octets) : Prop := ∀ b ∈ octets, b ≠ 0x0D ∧ b ≠ 0x0A

instance (octets : Octets) : Decidable octets.IsUnbroken :=
  inferInstanceAs (Decidable (∀ b ∈ octets, b ≠ 0x0D ∧ b ≠ 0x0A))

/-- The code point is a carriage return or a line feed. -/
def CodePoint.IsBreak (c : CodePoint) : Prop := c.val = 0x0D ∨ c.val = 0x0A

instance (c : CodePoint) : Decidable c.IsBreak :=
  inferInstanceAs (Decidable (c.val = 0x0D ∨ c.val = 0x0A))

/-- No carriage return and no line feed occurs. -/
def Text.IsUnbroken (t : Text) : Prop := ∀ c ∈ t, ¬ c.IsBreak

instance (t : Text) : Decidable t.IsUnbroken := inferInstanceAs (Decidable (∀ c ∈ t, ¬ c.IsBreak))

namespace Text

theorem isUnbroken_append {s t : Text} : IsUnbroken (s ++ t) ↔ s.IsUnbroken ∧ t.IsUnbroken :=
  List.forall_mem_append

end Text

/-! ### Coming apart -/

namespace Framing

/-- The pieces between carriage returns with a line feed after them. There is one more piece than
there are such pairs. -/
def crlfLines : Octets → List Octets
  | [] => [[]]
  | [b] => [[b]]
  | b :: c :: rest =>
    if b = 0x0D ∧ c = 0x0A then [] :: crlfLines rest
    else (crlfLines (c :: rest)).modifyHead (b :: ·)

theorem crlfLines_cons_of_ne {b : UInt8} (hb : b ≠ 0x0D) (rest : Octets) :
    crlfLines (b :: rest) = (crlfLines rest).modifyHead (b :: ·) := by
  cases rest with
  | nil => rfl
  | cons c rest => rw [crlfLines, if_neg fun h => hb h.1]

theorem crlfLines_of_isUnbroken {line : Octets} (h : line.IsUnbroken) :
    crlfLines line = [line] := by
  induction line with
  | nil => rfl
  | cons b line ih =>
    rw [crlfLines_cons_of_ne (h b List.mem_cons_self).1,
      ih fun c hc => h c (List.mem_cons_of_mem b hc)]
    rfl

theorem crlfLines_append {line : Octets} (h : line.IsUnbroken) (rest : Octets) :
    crlfLines (line ++ 0x0D :: 0x0A :: rest) = line :: crlfLines rest := by
  induction line with
  | nil => rw [List.nil_append, crlfLines, if_pos ⟨rfl, rfl⟩]
  | cons b line ih =>
    rw [List.cons_append, crlfLines_cons_of_ne (h b List.mem_cons_self).1,
      ih fun c hc => h c (List.mem_cons_of_mem b hc)]
    rfl

theorem join_cons_cons (line next : Octets) (lines : List Octets) :
    join (line :: next :: lines) = line ++ 0x0D :: 0x0A :: join (next :: lines) := by
  simp [join, List.intercalate, List.intersperse]

/-- Lines that are joined come apart again, and without any break left in them, exactly if none
of them has a break in itself. -/
theorem crlfLines_join_iff {lines : List Octets} (nonempty : lines ≠ []) :
    (crlfLines (join lines) = lines ∧ ∀ line ∈ crlfLines (join lines), line.IsUnbroken) ↔
      ∀ line ∈ lines, line.IsUnbroken := by
  constructor
  · rintro ⟨apart, unbroken⟩
    rwa [apart] at unbroken
  · intro unbroken
    suffices apart : crlfLines (join lines) = lines from ⟨apart, by rwa [apart]⟩
    induction lines with
    | nil => exact absurd rfl nonempty
    | cons line lines ih =>
      have hline := unbroken line List.mem_cons_self
      cases lines with
      | nil =>
        rw [show join [line] = line by simp [join, List.intercalate]]
        exact crlfLines_of_isUnbroken hline
      | cons next lines =>
        rw [join_cons_cons, crlfLines_append hline, ih (by simp) fun l hl =>
          unbroken l (List.mem_cons_of_mem line hl)]

/-- Lines without breaks are joined in one way only. -/
theorem join_inj {lines others : List Octets} (nonempty : lines ≠ []) (nonempty' : others ≠ [])
    (unbroken : ∀ line ∈ lines, line.IsUnbroken) (unbroken' : ∀ line ∈ others, line.IsUnbroken) :
    join lines = join others ↔ lines = others := by
  refine ⟨fun same => ?_, congrArg join⟩
  rw [← ((crlfLines_join_iff nonempty).2 unbroken).1, same,
    ((crlfLines_join_iff nonempty').2 unbroken').1]

end Framing

/-! ### Encoding -/

namespace Utf8

@[simp] theorem encode?_nil : encode? [] = some [] := rfl

theorem encode?_cons (c : CodePoint) (t : Text) :
    encode? (c :: t) = (encodeOne? c).bind fun o => (encode? t).map (o ++ ·) := by
  simp only [encode?, List.mapM_cons]
  cases encodeOne? c with
  | none => rfl
  | some o =>
    cases t.mapM encodeOne? <;> rfl

/-- Texts in a row are encoded one after the other. -/
theorem encode?_append (s t : Text) :
    encode? (s ++ t) = (encode? s).bind fun o => (encode? t).map (o ++ ·) := by
  induction s with
  | nil => simp
  | cons c s ih =>
    rw [List.cons_append, encode?_cons, encode?_cons, ih]
    cases encodeOne? c with
    | none => rfl
    | some o =>
      cases encode? s with
      | none => rfl
      | some p => cases encode? t <;> simp

/-- Beyond the first 128, every octet of a code point is high. -/
theorem high_of_mem_encodeNat {n : Nat} (hn : 0x80 ≤ n) (lt : n < 0x110000) :
    ∀ b ∈ encodeNat n, 0x80 ≤ b.toNat := by
  intro b hb
  unfold encodeNat at hb
  rw [if_neg (by omega)] at hb
  split at hb
  · simp only [List.mem_cons, List.not_mem_nil, or_false] at hb
    rcases hb with rfl | rfl <;> simp only [UInt8.toNat_ofNat'] <;> omega
  · split at hb
    · simp only [List.mem_cons, List.not_mem_nil, or_false] at hb
      rcases hb with rfl | rfl | rfl <;> simp only [UInt8.toNat_ofNat'] <;> omega
    · simp only [List.mem_cons, List.not_mem_nil, or_false] at hb
      rcases hb with rfl | rfl | rfl | rfl <;> simp only [UInt8.toNat_ofNat'] <;> omega

theorem encodeNat_ne_nil (n : Nat) : encodeNat n ≠ [] := by
  unfold encodeNat
  repeat' split
  all_goals simp

/-- A code point is one octet of the same number, or beyond the first 128, as all of its octets
are. -/
theorem encodeOne?_cases {c : CodePoint} {octets : Octets} (h : encodeOne? c = some octets) :
    (c.val < 0x80 ∧ octets = [UInt8.ofNat c.val]) ∨
      (0x80 ≤ c.val ∧ octets ≠ [] ∧ ∀ b ∈ octets, 0x80 ≤ b.toNat) := by
  unfold encodeOne? CodePoint.octet? at h
  by_cases held : c.within 0xDC80 0xDCFF = true
  · simp only [held, if_true, Option.some.injEq] at h
    simp only [CodePoint.within, Bool.and_eq_true, decide_eq_true_eq] at held
    subst h
    refine .inr ⟨by omega, by simp, fun b hb => ?_⟩
    rw [List.mem_singleton] at hb
    rw [hb, UInt8.toNat_ofNat']
    omega
  · simp only [held, Bool.false_eq_true, if_false] at h
    split at h <;> cases h
    by_cases high : 0x80 ≤ c.val
    · exact .inr ⟨high, encodeNat_ne_nil _, high_of_mem_encodeNat high c.isLt⟩
    · exact .inl ⟨by omega, by rw [encodeNat, if_pos (by omega)]⟩

/-- The octets of a text, of which the first is one of the first 128. -/
theorem encode?_cons_eq_some {c : CodePoint} {t : Text} {b : UInt8} {octets : Octets}
    (hb : b.toNat < 0x80) (h : encode? (c :: t) = some (b :: octets)) :
    c.val = b.toNat ∧ encode? t = some octets := by
  rw [encode?_cons] at h
  obtain ⟨o, ho, h⟩ := Option.bind_eq_some_iff.1 h
  obtain ⟨p, hp, h⟩ := Option.map_eq_some_iff.1 h
  rcases encodeOne?_cases ho with ⟨ascii, rfl⟩ | ⟨-, nonempty, high⟩
  · cases h
    rw [UInt8.toNat_ofNat', Nat.mod_eq_of_lt (by omega)]
    exact ⟨rfl, hp⟩
  · cases o with
    | nil => exact absurd rfl nonempty
    | cons d o =>
      cases h
      have := high b List.mem_cons_self
      omega

/-- Of the first 128 code points, those occur in a text that occur among its octets. -/
theorem mem_encode?_iff {t : Text} {octets : Octets} (h : encode? t = some octets) {b : UInt8}
    (hb : b.toNat < 0x80) : b ∈ octets ↔ ∃ c ∈ t, c.val = b.toNat := by
  induction t generalizing octets with
  | nil =>
    cases h
    simp
  | cons c t ih =>
    rw [encode?_cons] at h
    obtain ⟨o, ho, h⟩ := Option.bind_eq_some_iff.1 h
    obtain ⟨p, hp, rfl⟩ := Option.map_eq_some_iff.1 h
    have head : b ∈ o ↔ c.val = b.toNat := by
      rcases encodeOne?_cases ho with ⟨ascii, rfl⟩ | ⟨beyond, -, high⟩
      · rw [List.mem_singleton, ← UInt8.toNat_inj, UInt8.toNat_ofNat',
          Nat.mod_eq_of_lt (by omega), eq_comm]
      · exact iff_of_false (fun hm => by have := high b hm; omega) (by omega)
    rw [List.mem_append, head, ih hp]
    simp

/-- Breaks are the same among octets as among code points. -/
theorem isUnbroken_encode? {t : Text} {octets : Octets} (h : encode? t = some octets) :
    octets.IsUnbroken ↔ t.IsUnbroken := by
  have cr := mem_encode?_iff h (b := 0x0D) (by decide)
  have lf := mem_encode?_iff h (b := 0x0A) (by decide)
  constructor
  · rintro unbroken c hc (isCr | isLf)
    · exact (unbroken _ (cr.2 ⟨c, hc, isCr⟩)).1 rfl
    · exact (unbroken _ (lf.2 ⟨c, hc, isLf⟩)).2 rfl
  · refine fun unbroken b hb => ⟨?_, ?_⟩
    · rintro rfl
      obtain ⟨c, hc, isCr⟩ := cr.1 hb
      exact unbroken c hc (.inl isCr)
    · rintro rfl
      obtain ⟨c, hc, isLf⟩ := lf.1 hb
      exact unbroken c hc (.inr isLf)

theorem mapM_encode?_cons (line : Text) (lines : List Text) :
    (line :: lines).mapM encode? =
      (encode? line).bind fun o => (lines.mapM encode?).map (o :: ·) := by
  rw [List.mapM_cons]
  cases encode? line with
  | none => rfl
  | some o => cases lines.mapM encode? <;> rfl

/-- Joined texts are encoded line by line. -/
theorem encode?_join (lines : List Text) :
    encode? (Text.join "\r\n" lines) = (lines.mapM encode?).map Framing.join := by
  induction lines with
  | nil => rfl
  | cons line lines ih =>
    rw [mapM_encode?_cons]
    cases lines with
    | nil =>
      cases h : encode? line <;> simp [Text.join, h, Framing.join, List.intercalate]
    | cons next lines =>
      have breaks : encode? (Text.ofString "\r\n") = some [0x0D, 0x0A] := by decide
      rw [Text.join, encode?_append, encode?_append, breaks, ih, mapM_encode?_cons]
      cases encode? line with
      | none => rfl
      | some o =>
        cases encode? next with
        | none => rfl
        | some p =>
          cases lines.mapM encode? with
          | none => rfl
          | some ps => simp [Framing.join_cons_cons]

end Utf8

end Mailroom
