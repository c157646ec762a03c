import Mailroom.Text.Split

/-!
# The words of a command line

A word that starts with a dash is an option, and all others are recipients, wherever they stand.
Behind two dashes alone every word is a recipient. Options with long names stand alone, their
argument behind an equals sign or in the next word. Options with one letter may share a word;
the argument of the last of them is the rest of the word or the next word.

* `Options`: what a command line asks for;
* `Options.read`: the request of some words: options, help, or neither if they are misused.
-/

namespace Mailroom

/-- What a command line asks for. -/
structure Options where
  config : Option Text
  sender : Text
  isDryRun : Bool
  isVerbose : Bool
  ignoresDots : Bool
  wantsHelp : Bool
  recipients : List Text
deriving DecidableEq

/-- An option without an argument. -/
inductive Switch where
  | dryRun
  | verbose
  | ignoreDots
  /-- Recipients are read from the header, which they are anyway. -/
  | readRecipients
  | help
deriving DecidableEq

/-- An option with an argument. -/
inductive Setting where
  | config
  | sender
  /-- Options that other mail programs know. Of these only the letter `i` means something. -/
  | other
deriving DecidableEq

/-- An option by its name. -/
inductive Flag where
  | switch (s : Switch)
  | setting (s : Setting)
deriving DecidableEq

namespace Flag

/-- The options with long names. -/
def longNames : List (String × Flag) := [
  ("--config", .setting .config), ("--from", .setting .sender), ("--dry-run", .switch .dryRun),
  ("--verbose", .switch .verbose), ("--ignore-dots", .switch .ignoreDots),
  ("--help", .switch .help)]

/-- The options of one letter. -/
def letters : List (Char × Flag) := [
  ('c', .setting .config), ('f', .setting .sender), ('n', .switch .dryRun),
  ('v', .switch .verbose), ('i', .switch .ignoreDots), ('t', .switch .readRecipients),
  ('o', .setting .other)]

/-- The option of a long name. -/
def ofName? (name : Text) : Option Flag :=
  (longNames.find? fun (n, _) => Text.ofString n = name).map (·.2)

/-- The option of a letter. -/
def ofLetter? (letter : CodePoint) : Option Flag :=
  (letters.find? fun (l, _) => CodePoint.ofChar l = letter).map (·.2)

end Flag

namespace Options

/-- The options of an empty command line. -/
def empty : Options :=
  { config := none, sender := [], isDryRun := false, isVerbose := false, ignoresDots := false,
    wantsHelp := false, recipients := [] }

/-- Options with a switch on. -/
def turnOn (o : Options) : Switch → Options
  | .dryRun => { o with isDryRun := true }
  | .verbose => { o with isVerbose := true }
  | .ignoreDots => { o with ignoresDots := true }
  | .readRecipients => o
  | .help => { o with wantsHelp := true }

/-- Options with a setting, which takes the place of an earlier one. -/
def give (o : Options) (argument : Text) : Setting → Options
  | .config => { o with config := some argument }
  | .sender => { o with sender := argument }
  | .other => if argument = Text.ofString "i" then { o with ignoresDots := true } else o

/-- Options with one more recipient. -/
def addRecipient (o : Options) (word : Text) : Options :=
  { o with recipients := o.recipients ++ [word] }

/-- What has been read of a word of letters: all of it, or all but the argument of its last
letter, or an option that is not known. -/
inductive Cluster where
  | complete (o : Options)
  | awaiting (setting : Setting) (o : Options)
  | unknown
deriving DecidableEq

/-- The options of a word of letters. -/
def readLetters (o : Options) : Text → Cluster
  | [] => .complete o
  | letter :: rest =>
    match Flag.ofLetter? letter with
    | some (.switch s) => readLetters (o.turnOn s) rest
    | some (.setting s) => if rest.isEmpty then .awaiting s o else .complete (o.give rest s)
    | none => .unknown

/-- The name of an option and what is attached to it by an equals sign. -/
def nameAndArgument (word : Text) : Text × Option Text :=
  match Text.cut? '=' word with
  | some (name, argument) => (name, some argument)
  | none => (word, none)

/-- The word is an option: a dash, and something behind it. -/
def isOption : Text → Bool
  | dash :: _ :: _ => dash = CodePoint.ofChar '-'
  | _ => false

/-- The word starts with two dashes. -/
def hasTwoDashes (word : Text) : Bool := (Text.ofString "--").isPrefixOf word

/-- The options of some words, if they are used as they should be. -/
def readWords (o : Options) : List Text → Option Options
  | [] => some o
  | word :: words =>
    if word = Text.ofString "--" then some (words.foldl addRecipient o)
    else if isOption word then
      let (name, attached) := nameAndArgument word
      match Flag.ofName? name, attached with
      | some (.switch s), none => readWords (o.turnOn s) words
      | some (.switch _), some _ => none
      | some (.setting s), some argument => readWords (o.give argument s) words
      | some (.setting s), none =>
        match words with
        | argument :: words => readWords (o.give argument s) words
        | [] => none
      | none, _ =>
        if hasTwoDashes word then none
        else match readLetters o (word.drop 1) with
          | .complete o => readWords o words
          | .awaiting s o =>
            match words with
            | argument :: words => readWords (o.give argument s) words
            | [] => none
          | .unknown => none
    else readWords (o.addRecipient word) words

/-- The options of a command line, if they are used as they should be. -/
def read (words : List Text) : Option Options := readWords empty words

@[simp] theorem read_nil : read [] = some empty := rfl

theorem readWords_dashes (o : Options) (words : List Text) :
    readWords o (Text.ofString "--" :: words) = some (words.foldl addRecipient o) := by
  simp [readWords]

end Options

end Mailroom
