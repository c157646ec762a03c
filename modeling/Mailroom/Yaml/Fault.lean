/-!
# What is wrong with a YAML text

* `Yaml.Breakdown`: texts that are refused without a report;
* `Yaml.Fault`: a text that is no YAML, or one that is refused without a report.
-/

namespace Mailroom.Yaml

/-- Texts that are refused without a report. -/
inductive Breakdown where
  /-- The octets are not UTF-8. -/
  | undecodable
  /-- A code point, number or date that does not exist. -/
  | outOfRange
  /-- A number too large to be worked with. -/
  | tooLarge
  /-- A text marked as a time that is none. -/
  | noTime
  /-- A text marked as a truth value that is none. -/
  | noTruthValue
  /-- A text marked as a number that is empty or nothing but a sign. -/
  | noDigits
  /-- A mapping marked as a time. -/
  | mappingAsTime
  /-- Nodes are nested too deeply. -/
  | nestedTooDeeply
deriving DecidableEq

/-- What is wrong with a text. -/
inductive Fault where
  | malformed
  | breakdown (cause : Breakdown)
deriving DecidableEq

end Mailroom.Yaml
