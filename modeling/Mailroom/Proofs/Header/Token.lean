import Mailroom.Proofs.Header.Name
import Mailroom.Proofs.Text.Blank

/-!
# Tokens

What a token cannot hold, and what that makes of it.

* `FieldName.isTrimmed_of_isToken`: a token has no blank at its ends, nor anywhere else;
* `FieldName.isName_of_isToken`: nothing in it would end a name;
* `FieldName.isValid_iff`: field names are tokens, and tokens with a line feed behind them;
* `FieldName.isToken_of_isValid`: without blanks at its ends a field name is a token.
-/

namespace Mailroom.FieldName

theorem not_isBlank_of_isTokenChar {c : CodePoint} (h : isTokenChar c = true) :
    c.isBlank = false := by
  have all : ∀ c : CodePoint, c.isAscii = true → isTokenChar c = true → c.isBlank = false := by
    decide +kernel
  exact all c (isAscii_of_isTokenChar h) h

theorem ne_of_isTokenChar {c d : CodePoint} (hc : isTokenChar c = true)
    (hd : isTokenChar d = false) : c ≠ d := by
  rintro rfl
  rw [hc] at hd
  cases hd

theorem val_ne_of_isTokenChar {c d : CodePoint} (hc : isTokenChar c = true)
    (hd : isTokenChar d = false) : c.val ≠ d.val :=
  fun same => ne_of_isTokenChar hc hd (CodePoint.ext same)

section

variable {t : Text}

theorem isToken_iff : isToken t = true ↔ t ≠ [] ∧ ∀ c ∈ t, isTokenChar c = true := by
  rw [isToken, Bool.and_eq_true, Bool.not_eq_true', List.isEmpty_eq_false_iff, List.all_eq_true]

theorem isTrimmed_of_isToken (h : isToken t = true) : t.IsTrimmed where
  head c hc := not_isBlank_of_isTokenChar ((isToken_iff.1 h).2 c (List.mem_of_head? hc))
  last c hc := not_isBlank_of_isTokenChar ((isToken_iff.1 h).2 c (List.mem_of_getLast? hc))

theorem isName_of_isToken (h : isToken t = true) : t.IsName := by
  intro c hc
  have token := (isToken_iff.1 h).2 c hc
  refine ⟨val_ne_of_isTokenChar (d := ⟨0x3A, by decide⟩) token (by decide),
    val_ne_of_isTokenChar (d := ⟨0x20, by decide⟩) token (by decide),
    val_ne_of_isTokenChar (d := ⟨0x09, by decide⟩) token (by decide), ?_⟩
  rintro (cr | lf)
  · exact val_ne_of_isTokenChar (d := ⟨0x0D, by decide⟩) token (by decide) cr
  · exact val_ne_of_isTokenChar (d := ⟨0x0A, by decide⟩) token (by decide) lf

theorem isValid_of_isToken (h : isToken t = true) : isValid t = true := by
  have whole : dropLineFeed t = t := by
    refine dropLineFeed_eq_self fun c last => ?_
    have token := (isToken_iff.1 h).2 c (List.mem_reverse.1 (List.mem_of_head? last))
    exact val_ne_of_isTokenChar (d := ⟨0x0A, by decide⟩) token (by decide)
  rw [isValid, whole]
  exact h

theorem dropLineFeed_cases (t : Text) :
    dropLineFeed t = t ∨ t = dropLineFeed t ++ Text.ofString "\n" := by
  unfold dropLineFeed
  split
  · next c rest reversed =>
    by_cases feed : c.val = 0x0A
    · have last : c = CodePoint.ofChar '\n' := CodePoint.ext feed
      rw [if_pos feed]
      refine .inr ?_
      calc t = (c :: rest).reverse := by rw [← reversed, List.reverse_reverse]
        _ = rest.reverse ++ Text.ofString "\n" := by rw [List.reverse_cons, last]; rfl
    · exact .inl (if_neg feed)
  · exact .inl rfl

theorem dropLineFeed_append (s : Text) : dropLineFeed (s ++ Text.ofString "\n") = s := by
  have reversed : (s ++ Text.ofString "\n").reverse = CodePoint.ofChar '\n' :: s.reverse :=
    List.reverse_append
  rw [dropLineFeed, reversed]
  exact (if_pos rfl).trans s.reverse_reverse

/-- **Which texts are field names**: tokens, and tokens with one line feed behind them. -/
theorem isValid_iff :
    isValid t = true ↔
      isToken t = true ∨ ∃ s, isToken s = true ∧ t = s ++ Text.ofString "\n" := by
  constructor
  · intro valid
    rcases dropLineFeed_cases t with whole | feed
    · exact .inl (by rwa [isValid, whole] at valid)
    · exact .inr ⟨_, valid, feed⟩
  · rintro (token | ⟨s, token, rfl⟩)
    · exact isValid_of_isToken token
    · rw [isValid, dropLineFeed_append]
      exact token

theorem isToken_of_isValid (valid : isValid t = true) (trimmed : t.IsTrimmed) :
    isToken t = true := by
  refine (isValid_iff.1 valid).resolve_right ?_
  rintro ⟨s, -, rfl⟩
  have blank := trimmed.last (CodePoint.ofChar '\n') (by rw [List.getLast?_append]; rfl)
  exact absurd blank (by decide)

end

end Mailroom.FieldName
