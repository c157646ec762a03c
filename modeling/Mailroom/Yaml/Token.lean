import Mailroom.Yaml.Fault
import Mailroom.Text.CodePoint

/-!
# Tokens of a YAML text

* `Yaml.Token`: brackets, separators, properties and scalars, and the ends of blocks;
* `Token.fault`: what is wrong where a token does not fit.
-/

namespace Mailroom.Yaml

/-- A line that tells how to read the document below it. -/
inductive Directive where
  | version (major : Nat)
  | handle (handle leading : Text)
  | other
deriving DecidableEq

/-- The mark for the kind of a node: a shorthand with a handle, or a full name. -/
structure Shorthand where
  handle : Option Text
  suffix : Text
deriving DecidableEq

/-- A token. Blocks are made of lines that are indented alike; their beginnings and ends are
tokens too. The last token tells that the text ends, or why no more can be read. -/
inductive Token where
  | directive (directive : Directive)
  | documentStart
  | documentEnd
  | blockList
  | blockMapping
  | blockEnd
  | flowList
  | flowListEnd
  | flowMapping
  | flowMappingEnd
  | item
  | comma
  | key
  | value
  | alias (name : Text)
  | anchor (name : Text)
  | tag (shorthand : Shorthand)
  | scalar (text : Text) (isPlain : Bool)
  | textEnd
  | illegible (fault : Fault)
deriving DecidableEq

/-- What is wrong where a token does not fit. -/
def Token.fault : Token → Fault
  | illegible fault => fault
  | _ => .malformed

end Mailroom.Yaml
