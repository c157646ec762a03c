import Mailroom.Text.CodePoint

/-!
# What is wrong with an address list

A list can be read to its end although parts of it are malformed; each such part has a
defect.

* `Address.Defect`: the kinds of malformed parts, with their wording;
* `Address.Breakdown`: forms at which reading breaks down without a report;
* `Address.Halt`: why the reading of one construct stops.
-/

namespace Mailroom.Address

/-- A malformed part of an address list. -/
inductive Defect where
  | blankInEncodedWord
  | textAfterEncodedWord
  | encodedWordInQuotes
  | openQuotes
  | openComment
  | phraseWithoutWord
  | improperLocalPart
  | missingDomain
  | nullAddress
  | openAngle
  | openGroup
  | invalidMember
  | invalidEntry
deriving DecidableEq

/-- The wording of a defect. -/
def Defect.message : Defect → Text
  | blankInEncodedWord => "whitespace inside encoded word"
  | textAfterEncodedWord => "missing trailing whitespace after encoded-word"
  | encodedWordInQuotes => "encoded word inside quoted string"
  | openQuotes => "end of header inside quoted string"
  | openComment => "end of header inside comment"
  | phraseWithoutWord => "phrase does not start with word"
  | improperLocalPart => "local-part is not dot-atom, quoted-string, or obs-local-part"
  | missingDomain => "addr-spec local part with no domain"
  | nullAddress => "null addr-spec in angle-addr"
  | openAngle => "missing trailing '>' on angle-addr"
  | openGroup => "end of header in group"
  | invalidMember => "invalid mailbox in mailbox-list"
  | invalidEntry => "invalid address in address-list"

/-- A form at which reading breaks down without a report. -/
inductive Breakdown where
  /-- A domain literal runs to the end of the text. -/
  | openLiteral
  /-- A domain literal of nothing but blanks runs to the end of the text. -/
  | blankOpenLiteral
  /-- A filler stands before a name that begins with a dot. -/
  | fillerBeforeDot
  /-- A name begins or ends with a dot. -/
  | dotAtNameEnd
  /-- Text follows the semicolon of a group. -/
  | textAfterGroup
deriving DecidableEq

/-- Why the reading of one construct stops. -/
inductive Halt where
  /-- The construct is not there; another may be. -/
  | mismatch
  /-- The text ends where a code point has to follow. -/
  | pastEndOfText
  /-- A list of parts ends where another part has to follow. -/
  | pastEndOfParts
  | breakdown (cause : Breakdown)
deriving DecidableEq

/-- A second reading where the construct of the first is not there. -/
def Halt.orElse {α : Type} (first : Except Halt α) (second : Unit → Except Halt α) :
    Except Halt α :=
  match first with
  | .error .mismatch => second ()
  | r => r

/-- The defect of a filler that ends inside a comment. -/
def commentDefects (unclosed : Bool) : List Defect := if unclosed then [.openComment] else []

end Mailroom.Address
