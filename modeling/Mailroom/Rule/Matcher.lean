import Mailroom.Pattern.Reader
import Mailroom.Pattern.Search
import Mailroom.Text.Lower
import Mailroom.Text.Split

/-!
# Matchers

* `Matcher`: everything matches, or a field is compared with a value or a pattern;
* `Matcher.parse`: the matcher of a condition such as `to:a@b.c` or `subject/regex:^x`;
* `Matcher.shown`: the condition of a matcher;
* `Condition.accepts`: the comparison with a value.
-/

namespace Mailroom

/-- How the value of a field is read for a comparison: as the first address of a list, or
as it is. -/
inductive FieldKind where
  | address
  | plain
deriving DecidableEq

/-- The names of fields that hold addresses. -/
def FieldKind.addressFields : List String := ["to", "from", "cc", "bcc", "reply-to"]

/-- How a field is read, by its name in small letters. -/
def FieldKind.ofField (field : Text) : FieldKind :=
  if addressFields.any fun s => decide (Text.ofString s = field) then .address else .plain

/-- A field, the text to compare it with, and the pattern of that text if it is one. -/
structure Condition where
  field : Text
  value : Text
  pattern : Option Pattern
deriving DecidableEq

/-- How the field of a condition is read. -/
def Condition.kind (c : Condition) : FieldKind := FieldKind.ofField c.field

/-- The value of a field meets a condition. -/
def Condition.accepts (c : Condition) (value : Text) : Except Pattern.Breakdown Bool :=
  match c.pattern with
  | some pattern => pattern.occursIn value
  | none => .ok (value = c.value)

/-- Everything matches, or a field has to meet a condition. -/
inductive Matcher where
  | everything
  | field (condition : Condition)
deriving DecidableEq

/-- Why a text is no condition. -/
inductive MatcherFault where
  | noColon
  | noField
  | pattern (fault : Pattern.Fault)
deriving DecidableEq

/-- The wording of the reason. -/
def MatcherFault.message : MatcherFault → Text
  | noColon => "match condition format must have a colon"
  | noField => "match condition is missing a field name"
  | pattern fault => "invalid match condition regex: " ++ fault.message

namespace Matcher

/-- A failure of reading a condition. -/
inductive Failure where
  | fault (fault : MatcherFault)
  | breakdown (cause : Pattern.Breakdown)
deriving DecidableEq

/-- What a field name ends in when the value is a pattern. -/
def patternSuffix : Text := "/regex"

/-- The name without the mark of a pattern, if it has that mark. -/
def withoutSuffix? (name : Text) : Option Text :=
  if patternSuffix.isSuffixOf name then some (name.take (name.length - patternSuffix.length))
  else none

/-- The pattern of a text. -/
def compile (text : Text) : Except Failure Pattern :=
  match Pattern.parse text with
  | .ok pattern => .ok pattern
  | .error (.fault fault) => .error (.fault (.pattern fault))
  | .error (.breakdown cause) => .error (.breakdown cause)

/-- The matcher of a condition. -/
def parse (condition : Text) : Except Failure Matcher :=
  if condition = Text.ofString "*" then .ok .everything
  else match Text.cut? ':' condition with
    | none => .error (.fault .noColon)
    | some (name, value) => do
      let name := Text.lower name.trim
      let (name, pattern) ← match withoutSuffix? name with
        | some name => do
          let pattern ← compile value
          pure (name, some pattern)
        | none => pure (name, none)
      if name.isEmpty then .error (.fault .noField)
      else return .field ⟨name, value, pattern⟩

/-- The condition of a matcher. -/
def shown : Matcher → Text
  | everything => "*"
  | field c =>
    let suffix : Text := if c.pattern.isSome then patternSuffix else []
    c.field ++ suffix ++ ":" ++ c.value

@[simp] theorem parse_star : parse "*" = .ok .everything := by
  simp [parse]

end Matcher

end Mailroom
