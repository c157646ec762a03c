import Mailroom.Address.EncodedWord

/-!
# Addresses

* `Address`: `local@domain` and a display name, which may be empty;
* `Address.render?`: the address as it is written in a header field;
* `AddressList`: addresses in order; `AddressList.render?` writes them with commas between.
-/

namespace Mailroom

/-- An address with its display name, which is empty if there is none. -/
structure Address where
  address : Text
  name : Text
deriving DecidableEq

/-- Addresses in order. -/
abbrev AddressList := List Address

namespace Address

/-- The address in angle brackets. -/
def bracketed (a : Address) : Text := "<" ++ a.address ++ ">"

/-- The address as it is written in a header field: an ASCII name between quotation marks, any
other as an encoded word. A name with lone surrogates cannot be written. -/
def render? (a : Address) : Option Text :=
  if a.name.isEmpty then some a.bracketed
  else if a.name.isAscii then some (a.name.inQuotes ++ " " ++ a.bracketed)
  else (Utf8.encodeStrict? a.name).map fun octets =>
    EncodedWord.encode octets ++ " " ++ a.bracketed

@[simp] theorem render?_of_unnamed (address : Text) :
    render? ⟨address, []⟩ = some ("<" ++ address ++ ">") := rfl

end Address

namespace AddressList

/-- Every address as it is written in a header field. -/
def renderEach? (l : AddressList) : Option (List Text) := l.mapM Address.render?

/-- The addresses as they are written in a header field, with commas between them. -/
def render? (l : AddressList) : Option Text := (renderEach? l).map (Text.join ",")

/-- The addresses without their names. -/
def addresses (l : AddressList) : List Text := l.map (·.address)

@[simp] theorem render?_nil : render? [] = some [] := rfl

theorem renderEach?_cons_eq_some_iff {a : Address} {l : AddressList} {texts : List Text} :
    renderEach? (a :: l) = some texts ↔
      ∃ text rest, a.render? = some text ∧ renderEach? l = some rest ∧ texts = text :: rest := by
  unfold renderEach?
  rw [List.mapM_cons]
  constructor
  · intro e
    obtain ⟨text, htext, e⟩ := Option.bind_eq_some_iff.1 e
    obtain ⟨rest, hrest, e⟩ := Option.bind_eq_some_iff.1 e
    cases e
    exact ⟨text, rest, htext, hrest, rfl⟩
  · rintro ⟨text, rest, htext, hrest, rfl⟩
    rw [htext, hrest]
    rfl

end AddressList

end Mailroom
