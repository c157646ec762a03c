import Mailroom.Pattern.Basic
import Mailroom.Text.Quoted

/-!
# What is wrong with a regular expression

* `Pattern.Problem`: the kinds of mistakes, with their wording;
* `Pattern.Fault`: a mistake with its place in the text; `Fault.message` names the line and
  column too if the text has several lines;
* `Pattern.Breakdown`: texts that are refused without a report.
-/

namespace Mailroom.Pattern

/-- A mistake in a regular expression. -/
inductive Problem where
  | escapeAtEnd
  | badEscape (escape : Text)
  | incompleteEscape (escape : Text)
  | octalTooLarge (escape : Text)
  | missingBrace
  | unknownCharacter (name : Text)
  | missingName (what : Text)
  | openName (terminator : CodePoint)
  | badName (name : Text)
  | unknownName (name : Text)
  | redefinedName (name : Text) (group earlier : Nat)
  | invalidReference (group : Nat)
  | openGroupReference
  | sameLookBehind
  | badGroupNumber
  | tooManyBranches
  | openSet
  | badRange (low high : Text)
  | repeatOrder
  | nothingToRepeat
  | multipleRepeat
  | unexpectedEnd
  | unknownExtension (extension : Text)
  | openComment
  | openSubpattern
  | unbalanced
  | flagsNotAtStart
  | localeFlag
  | incompatibleFlags
  | unknownFlag
  | missingFlag
  | missingFlagEnd
  | missingColon
  | globalFlagOn
  | globalFlagOff
  | typeFlagOff
  | flagOnAndOff
  | lookBehindWidth
  | templateRepeat (greed : Greed)
deriving DecidableEq

/-- The wording of a mistake. -/
def Problem.message : Problem → Text
  | escapeAtEnd => "bad escape (end of pattern)"
  | badEscape escape => "bad escape " ++ escape
  | incompleteEscape escape => "incomplete escape " ++ escape
  | octalTooLarge escape => "octal escape value " ++ escape ++ " outside of range 0-0o377"
  | missingBrace => "missing \x7b"
  | unknownCharacter name => "undefined character name " ++ name.quoted
  | missingName what => "missing " ++ what
  | openName terminator => "missing " ++ [terminator] ++ ", unterminated name"
  | badName name => "bad character in group name " ++ name.quoted
  | unknownName name => "unknown group name " ++ name.quoted
  | redefinedName name index earlier =>
    "redefinition of group name " ++ name.quoted ++ " as group " ++ Text.ofNat index
      ++ "; was group " ++ Text.ofNat earlier
  | invalidReference index => "invalid group reference " ++ Text.ofNat index
  | openGroupReference => "cannot refer to an open group"
  | sameLookBehind => "cannot refer to group defined in the same lookbehind subpattern"
  | badGroupNumber => "bad group number"
  | tooManyBranches => "conditional backref with more than two branches"
  | openSet => "unterminated character set"
  | badRange low high => "bad character range " ++ low ++ "-" ++ high
  | repeatOrder => "min repeat greater than max repeat"
  | nothingToRepeat => "nothing to repeat"
  | multipleRepeat => "multiple repeat"
  | unexpectedEnd => "unexpected end of pattern"
  | unknownExtension extension => "unknown extension ?" ++ extension
  | openComment => "missing ), unterminated comment"
  | openSubpattern => "missing ), unterminated subpattern"
  | unbalanced => "unbalanced parenthesis"
  | flagsNotAtStart => "global flags not at the start of the expression"
  | localeFlag => "bad inline flags: cannot use 'L' flag with a str pattern"
  | incompatibleFlags => "bad inline flags: flags 'a', 'u' and 'L' are incompatible"
  | unknownFlag => "unknown flag"
  | missingFlag => "missing flag"
  | missingFlagEnd => "missing -, : or )"
  | missingColon => "missing :"
  | globalFlagOn => "bad inline flags: cannot turn on global flag"
  | globalFlagOff => "bad inline flags: cannot turn off global flag"
  | typeFlagOff => "bad inline flags: cannot turn off flags 'a', 'u' and 'L'"
  | flagOnAndOff => "bad inline flags: flag turned on and off"
  | lookBehindWidth => "look-behind requires fixed-width pattern"
  | templateRepeat greed => "internal: unsupported template operator " ++
    match greed with
    | .most => ("MAX_REPEAT" : Text)
    | .least => "MIN_REPEAT"
    | .possessive => "POSSESSIVE_REPEAT"

/-- A mistake and its place, counted from zero, in the text of the expression. -/
structure Fault where
  problem : Problem
  position : Option Nat
  source : Text
deriving DecidableEq

/-- The line of a place, counted from one, and its column. -/
def lineAndColumn (source : Text) (position : Nat) : Nat × Nat :=
  let before := source.take position
  let lineFeed (c : CodePoint) : Bool := c.val == 0x0A
  (before.countP lineFeed + 1,
    (before.reverse.takeWhile fun c => !lineFeed c).length + 1)

/-- The wording of a mistake with its place. -/
def Fault.message (f : Fault) : Text :=
  match f.position with
  | none => f.problem.message
  | some position =>
    let place := f.problem.message ++ " at position " ++ Text.ofNat position
    if f.source.any fun c => c.val == 0x0A then
      let (line, column) := lineAndColumn f.source position
      place ++ " (line " ++ Text.ofNat line ++ ", column " ++ Text.ofNat column ++ ")"
    else place

/-- Texts that are refused without a report. -/
inductive Breakdown where
  /-- A number of repetitions is 2^32 - 1 or more. -/
  | repeatTooLarge
  /-- A number of repetitions has too many digits to be read. -/
  | repeatTooLong
  /-- Both kinds of character classes are asked for. -/
  | asciiAndUnicode
  /-- Patterns are nested too deeply. -/
  | nestedTooDeeply
  /-- A look-behind is 2^31 code points long or longer. -/
  | lookBehindTooLong
  /-- A match would have a group that begins behind its end. -/
  | crossedGroup
deriving DecidableEq

/-- A failure of reading a regular expression. -/
inductive Failure where
  | fault (fault : Fault)
  | breakdown (cause : Breakdown)
deriving DecidableEq

end Mailroom.Pattern
