import Mailroom.Pattern.Problem
import Mailroom.Text.CharacterName
import Mailroom.Text.Identifier
import Mailroom.Text.Integer

/-!
# Reading regular expressions

The text is cut into tokens, single code points or a backslash with the code point after it,
and read by recursive descent. One token is always looked at ahead, so a backslash at the
very end is a mistake as soon as the token before it is taken.

* `Pattern.Source`: the tokens to come, with what is known of groups and flags;
* `Pattern.parse`: the pattern of a text.
-/

namespace Mailroom.Pattern

/-- A code point, or a backslash and a code point, at a place. -/
structure Token where
  start : Nat
  text : Text
deriving DecidableEq

/-- The tokens of a text from a place on. A backslash at the end is a token by itself. -/
def tokens (start : Nat) : Text → List Token
  | [] => []
  | [c] => [⟨start, [c]⟩]
  | c :: d :: t =>
    if c.val = 0x5C then ⟨start, [c, d]⟩ :: tokens (start + 2) t
    else ⟨start, [c]⟩ :: tokens (start + 1) (d :: t)

/-- The flags that a pattern can set. -/
structure Flags where
  ignoreCase : Bool
  multiline : Bool
  dotAll : Bool
  verbose : Bool
  ascii : Bool
  unicode : Bool
  template : Bool
deriving DecidableEq

namespace Flags

/-- No flag. -/
def none : Flags := ⟨false, false, false, false, false, false, false⟩

/-- The flag of a letter. -/
def ofLetter? (t : Text) : Option Flags :=
  match t with
  | [c] => match Char.ofNat c.val with
    | 'i' => some { none with ignoreCase := true }
    | 'm' => some { none with multiline := true }
    | 's' => some { none with dotAll := true }
    | 'x' => some { none with verbose := true }
    | 'a' => some { none with ascii := true }
    | 'u' => some { none with unicode := true }
    | 't' => some { none with template := true }
    | _ => Option.none
  | _ => Option.none

/-- Both flags. -/
def union (f g : Flags) : Flags :=
  ⟨f.ignoreCase || g.ignoreCase, f.multiline || g.multiline, f.dotAll || g.dotAll,
    f.verbose || g.verbose, f.ascii || g.ascii, f.unicode || g.unicode,
    f.template || g.template⟩

/-- The flags that both have. -/
def inter (f g : Flags) : Flags :=
  ⟨f.ignoreCase && g.ignoreCase, f.multiline && g.multiline, f.dotAll && g.dotAll,
    f.verbose && g.verbose, f.ascii && g.ascii, f.unicode && g.unicode,
    f.template && g.template⟩

/-- The flags without others. -/
def minus (f g : Flags) : Flags :=
  ⟨f.ignoreCase && !g.ignoreCase, f.multiline && !g.multiline, f.dotAll && !g.dotAll,
    f.verbose && !g.verbose, f.ascii && !g.ascii, f.unicode && !g.unicode,
    f.template && !g.template⟩

/-- A flag that chooses the kind of character classes. -/
def isType (f : Flags) : Bool := f.ascii || f.unicode

/-- The flags inside a group that turns some on and some off. -/
def inside (f on off : Flags) : Flags :=
  let base := if on.isType then { f with ascii := false, unicode := false } else f
  (base.union on).minus off

/-- How letters are compared. -/
def fold (f : Flags) : Fold := if f.ignoreCase then (if f.ascii then .ascii else .full) else .exact

end Flags

/-- The tokens to come, and what is known of groups and flags. -/
structure Source where
  rest : List Token
  whole : Text
  flags : Flags
  /-- The widths of the groups, those that are open having none. -/
  groups : List (Option Width)
  names : List (Text × Nat)
  /-- The number of groups when the outermost look-behind began. -/
  behind : Option Nat
  /-- Groups that conditions refer to, with the places where they first do. -/
  conditions : List (Nat × Nat)

/-- A step of reading. -/
abbrev Reading (α : Type) := StateT Source (Except Failure) α

namespace Reading

/-- The place of the next token. -/
def tell : Reading Nat := do
  let s ← get
  return match s.rest with
    | token :: _ => token.start
    | [] => s.whole.length

/-- A mistake at a place. -/
def failAt {α : Type} (problem : Problem) (position : Nat) : Reading α := do
  throw (.fault ⟨problem, some position, (← get).whole⟩)

/-- A mistake some code points before the next token. -/
def fail {α : Type} (problem : Problem) (offset : Nat) : Reading α := do
  failAt problem ((← tell) - offset)

/-- The text of the next token. -/
def peek : Reading (Option Text) := do return (← get).rest.head?.map (·.text)

/-- The next token is refused if it is a lone backslash. -/
def check : Reading Unit := do
  let s ← get
  match s.rest with
  | [token] =>
    if token.text = [CodePoint.ofChar '\\'] then failAt .escapeAtEnd token.start else pure ()
  | _ => pure ()

/-- The next token, taken. -/
def take : Reading (Option Text) := do
  let s ← get
  match s.rest with
  | [] => return none
  | token :: rest =>
    set { s with rest := rest }
    check
    return some token.text

/-- Whether the next token is a given code point, which is then taken. -/
def accept (c : CodePoint) : Reading Bool := do
  if (← peek) = some [c] then
    let _ ← take
    return true
  else return false

/-- At most some number of tokens, all of them single code points of a class. -/
def takeWhile (p : CodePoint → Bool) : Nat → Reading Text
  | 0 => return []
  | n + 1 => do
    match ← peek with
    | some [c] =>
      if p c then
        let _ ← take
        return c :: (← takeWhile p n)
      else return []
    | _ => return []

/-- The tokens up to a terminator, which is taken too. -/
def takeUntil (terminator : CodePoint) (what : Text) : Nat → Text → Reading Text
  | 0, found => return found
  | fuel + 1, found => do
    match ← take with
    | none =>
      if found.isEmpty then fail (.missingName what) 0
      else fail (.openName terminator) found.length
    | some token =>
      if token = [terminator] then
        if found.isEmpty then fail (.missingName what) 1 else return found
      else takeUntil terminator what fuel (found ++ token)

/-- A name up to a terminator. -/
def takeName (terminator : CodePoint) (what : Text) : Reading Text := do
  takeUntil terminator what ((← get).rest.length + 1) []

end Reading

open Reading

/-- One code point of a set, or a whole class. -/
inductive Escaped where
  | char (c : CodePoint)
  | category (category : Category) (negated : Bool)

/-- The escapes of control characters. -/
def controlEscape? (c : CodePoint) : Option CodePoint :=
  match Char.ofNat c.val with
  | 'a' => some (CodePoint.ofNat 0x07)
  | 'b' => some (CodePoint.ofNat 0x08)
  | 'f' => some (CodePoint.ofNat 0x0C)
  | 'n' => some (CodePoint.ofNat 0x0A)
  | 'r' => some (CodePoint.ofNat 0x0D)
  | 't' => some (CodePoint.ofNat 0x09)
  | 'v' => some (CodePoint.ofNat 0x0B)
  | '\\' => some (CodePoint.ofNat 0x5C)
  | _ => none

/-- The escapes of character classes. -/
def categoryEscape? (c : CodePoint) : Option (Category × Bool) :=
  match Char.ofNat c.val with
  | 'd' => some (.digit, false)
  | 'D' => some (.digit, true)
  | 's' => some (.space, false)
  | 'S' => some (.space, true)
  | 'w' => some (.word, false)
  | 'W' => some (.word, true)
  | _ => none

/-- An octal digit. -/
def isOctal (c : CodePoint) : Bool := c.within 0x30 0x37

/-- The number written by octal digits. -/
def octalNumber (t : Text) : Nat := t.foldl (fun n c => n * 8 + (c.val - 0x30)) 0

/-- The code point of a number in hexadecimal digits, of which there must be a certain count. -/
def hexEscape (escape : Text) (count : Nat) : Reading CodePoint := do
  let digits ← takeWhile (·.hexValue?.isSome) count
  if digits.length ≠ count then
    fail (.incompleteEscape (escape ++ digits)) (escape.length + digits.length)
  else match (Text.hexNumber? digits).bind CodePoint.ofNat? with
    | some c => return c
    | none => fail (.badEscape (escape ++ digits)) (escape.length + digits.length)

/-- The code point of a name in braces. -/
def namedEscape : Reading CodePoint := do
  if ← accept (CodePoint.ofNat 0x7B) then
    let name ← takeName (CodePoint.ofNat 0x7D) "character name"
    match CodePoint.named? name with
    | some c => return c
    | none => fail (.unknownCharacter name) (name.length + 4)
  else fail .missingBrace 0

/-- The escapes that give one code point inside and outside of sets alike. -/
def commonEscape? (c : CodePoint) (escape : Text) : Option (Reading CodePoint) :=
  match Char.ofNat c.val with
  | 'x' => some (hexEscape escape 2)
  | 'u' => some (hexEscape escape 4)
  | 'U' => some (hexEscape escape 8)
  | 'N' => some namedEscape
  | _ => none

/-- An octal escape of up to two more digits. -/
def octalEscape (escape digits : Text) : Reading CodePoint := do
  let n := octalNumber digits
  if 0o377 < n then fail (.octalTooLarge escape) escape.length
  else return CodePoint.ofNat n

/-- What an escape stands for inside of a set. -/
def setEscape (escape : Text) : Reading Escaped := do
  match escape with
  | [_, c] =>
    match controlEscape? c, categoryEscape? c, commonEscape? c escape with
    | some d, _, _ => return .char d
    | none, some (kind, negated), _ => return .category kind negated
    | none, none, some common => return .char (← common)
    | none, none, none =>
      if isOctal c then
        let more ← takeWhile isOctal 2
        return .char (← octalEscape (escape ++ more) (c :: more))
      else if c.isAsciiDigit || c.isAsciiLetter then fail (.badEscape escape) 2
      else return .char c
  | _ => fail (.badEscape escape) escape.length

/-- Whether a group is there and closed. -/
def isClosed (s : Source) (index : Nat) : Bool :=
  match index with
  | 0 => false
  | n + 1 => (s.groups[n]?).join.isSome

/-- A group can be referred to from a look-behind only if it was there before. -/
def checkLookBehind (index : Nat) : Reading Unit := do
  let s ← get
  match s.behind with
  | none => return ()
  | some count =>
    if !isClosed s index then fail .openGroupReference 0
    else if count ≤ index then fail .sameLookBehind 0
    else return ()

/-- A back reference to a group. -/
def referTo (index : Nat) (flags : Flags) : Reading Pattern := do
  let s ← get
  let width := (((s.groups[index - 1]?).join).getD ⟨0, 0⟩)
  return .backReference flags.fold index width

/-- The test of a single code point, which is compared as it is if letter case cannot make a
difference. -/
def charTest (flags : Flags) (c : CodePoint) (negated : Bool) : Pattern :=
  let cased := if flags.ascii then c.isAsciiLetter else c.hasCase
  .test (if cased then flags.fold else .exact) (.char c negated)

/-- The test of a set of code points. -/
def setTest (flags : Flags) (items : List SetItem) (negated : Bool) : Pattern :=
  let cased := items.any (SetItem.hasCase flags.ascii)
  .test (if cased then flags.fold else .exact) (.set items negated)

/-- The test of a set of code points, of which there may be just one. -/
def testOf (flags : Flags) (items : List SetItem) (negated : Bool) : Pattern :=
  match items with
  | [.char c] => charTest flags c negated
  | items => setTest flags items negated

/-- What an escape stands for outside of sets. -/
def escapeOutside (flags : Flags) (escape : Text) : Reading Pattern := do
  match escape with
  | [_, c] =>
    let plain (c : CodePoint) : Pattern := charTest flags c false
    match categoryEscape? c with
    | some (kind, negated) =>
      return setTest flags [.category kind negated flags.ascii] false
    | none =>
    match Char.ofNat c.val with
    | 'A' => return .anchor .textStart
    | 'Z' => return .anchor .textEnd
    | 'b' => return .anchor (.boundary false flags.ascii)
    | 'B' => return .anchor (.boundary true flags.ascii)
    | _ =>
    match controlEscape? c, commonEscape? c escape with
    | some d, _ => return plain d
    | none, some common => return plain (← common)
    | none, none =>
      if c.val == 0x30 then
        let more ← takeWhile isOctal 2
        return plain (CodePoint.ofNat (octalNumber more))
      else if c.isAsciiDigit then
        let second ← takeWhile CodePoint.isAsciiDigit 1
        let third ←
          if isOctal c && !second.isEmpty && second.all isOctal then takeWhile isOctal 1
          else pure []
        if !third.isEmpty then
          return plain (← octalEscape (escape ++ second ++ third) (c :: second ++ third))
        else
          let index := (c :: second).foldl (fun n d => n * 10 + (d.val - 0x30)) 0
          let length := 1 + (c :: second).length
          let s ← get
          if index ≤ s.groups.length then
            if !isClosed s index then fail .openGroupReference length
            else
              checkLookBehind index
              referTo index flags
          else fail (.invalidReference index) (length - 1)
      else if c.isAsciiLetter then fail (.badEscape escape) 2
      else return plain c
  | _ => fail (.badEscape escape) escape.length

/-- An item of a set for what an escape or plain code point stands for. -/
def setItem (flags : Flags) : Escaped → SetItem
  | .char c => .char c
  | .category kind negated => .category kind negated flags.ascii

/-- What a token stands for inside of a set. -/
def setToken (token : Text) : Reading Escaped := do
  match token with
  | [c] => return .char c
  | escape => setEscape escape

/-- The items of a set up to its end; `here` is the place of its bracket. -/
def setItems (flags : Flags) (here : Nat) : Nat → List SetItem → Reading (List SetItem)
  | 0, items => return items
  | fuel + 1, items => do
    match ← take with
    | none => failAt .openSet here
    | some this =>
      if this = [CodePoint.ofChar ']'] && !items.isEmpty then return items
      else
        let first ← setToken this
        if ← accept '-' then
          match ← take with
          | none => failAt .openSet here
          | some that =>
            if that = [CodePoint.ofChar ']'] then
              return items ++ [setItem flags first, .char (CodePoint.ofChar '-')]
            else
              let second ← setToken that
              match first, second with
              | .char low, .char high =>
                if high.val < low.val then
                  fail (.badRange this that) (this.length + 1 + that.length)
                else setItems flags here fuel (items ++ [.range low high])
              | _, _ => fail (.badRange this that) (this.length + 1 + that.length)
        else setItems flags here fuel (items ++ [setItem flags first])

/-- The set whose bracket has been read. -/
def readSet (flags : Flags) : Reading Pattern := do
  let here := (← tell) - 1
  let negated ← accept '^'
  let items ← setItems flags here ((← get).rest.length + 1) []
  return testOf flags items.eraseDups negated

/-- A number of repetitions in decimal digits. -/
def repeatCount (digits : Text) : Reading Nat := do
  match Text.toNat? digits with
  | none => throw (.breakdown .repeatTooLong)
  | some n => if 4294967295 ≤ n then throw (.breakdown .repeatTooLarge) else return n

/-- The numbers of repetitions that a token asks for; `none` if an opening brace stands for
itself after all. -/
def repeatRange (this : CodePoint) (here : Nat) : Reading (Option (Nat × Option Nat)) := do
  match Char.ofNat this.val with
  | '?' => return some (0, some 1)
  | '*' => return some (0, none)
  | '+' => return some (1, none)
  | _ =>
    if (← peek) = some [CodePoint.ofNat 0x7D] then return none
    else
      let before := (← get).rest
      let fuel := before.length
      let low ← takeWhile CodePoint.isAsciiDigit fuel
      let comma ← accept ','
      let high ← if comma then takeWhile CodePoint.isAsciiDigit fuel else pure low
      if ← accept (CodePoint.ofNat 0x7D) then
        let least ← if low.isEmpty then pure 0 else repeatCount low
        if high.isEmpty then return some (least, none)
        else
          let most ← repeatCount high
          if most < least then failAt .repeatOrder here
          else return some (least, some most)
      else
        modify ({ · with rest := before })
        return none

/-- The letters of flags that are turned on, with the token that ends them. -/
def flagsOn : Nat → Flags → Text → Reading (Flags × Text)
  | 0, on, letter => return (on, letter)
  | fuel + 1, on, letter => do
    if letter = [CodePoint.ofChar 'L'] then fail .localeFlag 0
    else
      let flag := (Flags.ofLetter? letter).getD Flags.none
      let on := on.union flag
      if flag.isType && on.ascii && on.unicode then fail .incompatibleFlags 0
      else match ← take with
        | none => fail .missingFlagEnd 0
        | some next =>
          if next = [CodePoint.ofChar ')'] || next = [CodePoint.ofChar '-']
            || next = [CodePoint.ofChar ':'] then return (on, next)
          else if (Flags.ofLetter? next).isSome || next = [CodePoint.ofChar 'L'] then
            flagsOn fuel on next
          else
            let problem : Problem :=
              if next.all CodePoint.isLetter then .unknownFlag else .missingFlagEnd
            fail problem next.length

/-- The letters of flags that are turned off, up to the colon. -/
def flagsOff : Nat → Flags → Text → Reading Flags
  | 0, off, _ => return off
  | fuel + 1, off, letter => do
    let flag := (Flags.ofLetter? letter).getD Flags.none
    if flag.isType || letter = [CodePoint.ofChar 'L'] then fail .typeFlagOff 0
    else
      let off := off.union flag
      match ← take with
      | none => fail .missingColon 0
      | some next =>
        if next = [CodePoint.ofChar ':'] then return off
        else if (Flags.ofLetter? next).isSome || next = [CodePoint.ofChar 'L'] then
          flagsOff fuel off next
        else
          let problem : Problem :=
            if next.all CodePoint.isLetter then .unknownFlag else .missingColon
          fail problem next.length

/-- The flags that a group turns on and off, or `none` if they hold for the whole pattern. -/
def readFlags (letter : Text) : Reading (Option (Flags × Flags)) := do
  let fuel := (← get).rest.length + 1
  let dash : Text := "-"
  let (on, ending) ← if letter = dash then pure (Flags.none, dash) else flagsOn fuel Flags.none letter
  if ending = [CodePoint.ofChar ')'] then
    modify fun s => { s with flags := s.flags.union on }
    return none
  else if on.template then fail .globalFlagOn 1
  else
    let off ←
      if ending = dash then
        match ← take with
        | none => fail .missingFlag 0
        | some next =>
          if (Flags.ofLetter? next).isSome || next = [CodePoint.ofChar 'L'] then
            flagsOff fuel Flags.none next
          else
            let problem : Problem :=
              if next.all CodePoint.isLetter then .unknownFlag else .missingFlag
            fail problem next.length
      else pure Flags.none
    if off.template then fail .globalFlagOff 1
    else if on.inter off ≠ Flags.none then fail .flagOnAndOff 1
    else return some (on, off)

/-- A new group, with a name if it has one. -/
def openGroup (name : Option Text) : Reading Nat := do
  let s ← get
  let index := s.groups.length + 1
  match name with
  | none =>
    set { s with groups := s.groups ++ [none] }
    return index
  | some name =>
    match s.names.find? fun entry => entry.1 = name with
    | some (_, earlier) => fail (.redefinedName name index earlier) (name.length + 1)
    | none =>
      set { s with groups := s.groups ++ [none], names := s.names ++ [(name, index)] }
      return index

/-- The end of a group, whose width is now known. -/
def closeGroup (index : Nat) (body : Pattern) : Reading Unit :=
  modify fun s => { s with groups := s.groups.set (index - 1) (some body.width) }

/-- A name that begins and goes on as names do. -/
def checkName (name : Text) : Reading Unit := do
  if name.isIdentifier then return () else fail (.badName name) (name.length + 1)

/-- The group that a condition refers to, by name or by number. -/
def conditionGroup : Reading Nat := do
  let name ← takeName ')' "group name"
  let s ← get
  if name.isIdentifier then
    match s.names.find? fun entry => entry.1 = name with
    | some (_, index) => return index
    | none => fail (.unknownName name) (name.length + 1)
  else match Text.toInt? name with
    | some (.ofNat 0) => fail .badGroupNumber (name.length + 1)
    | some (.ofNat index) =>
      if 2147483647 ≤ index then fail (.invalidReference index) (name.length + 1)
      else
        let place := (← tell) - name.length - 1
        if s.conditions.any fun entry => entry.1 == index then return index
        else
          set { s with conditions := s.conditions ++ [(index, place)] }
          return index
    | _ => fail (.badName name) (name.length + 1)

/-- The end of a group that began at a place. -/
def closeParenthesis (start : Nat) : Reading Unit := do
  if ← accept ')' then return () else failAt .openSubpattern start

/-- One item of several in a row: a pattern, or the patterns between parentheses that have no
meaning of their own. -/
inductive Item where
  | single (pattern : Pattern)
  | grouped (patterns : List Pattern)

/-- The patterns of an item. -/
def Item.patterns : Item → List Pattern
  | single p => [p]
  | grouped ps => ps

/-- The items in which the last one is repeated. -/
def repeatLast (items : List Item) (here length : Nat) (range : Nat × Option Nat) :
    Reading (List Item) := do
  match items with
  | [] | .single (.anchor _) :: _ => failAt .nothingToRepeat (here - length)
  | .single (.repeated ..) :: _ => failAt .multipleRepeat (here - length)
  | item :: before =>
    let greed ← if ← accept '?' then pure Greed.least
      else if ← accept '+' then pure Greed.possessive
      else pure Greed.most
    return .single (.repeated range.1 range.2 greed (ofList item.patterns)) :: before

/-- Patterns that are the same thing wherever they stand with the same flags. -/
def isSimple : Pattern → Bool
  | .test .. | .anchor _ | .backReference .. => true
  | _ => false

/-- The simple pattern that all of some alternatives begin with. -/
def sharedFirst? : List (List Pattern) → Option Pattern
  | (p :: _) :: others =>
    if isSimple p && others.all (fun ps => decide (ps.head? = some p)) then some p else none
  | _ => none

/-- What some alternatives begin with in common, and what is left of them. -/
def splitShared : Nat → List (List Pattern) → List Pattern × List (List Pattern)
  | 0, alternatives => ([], alternatives)
  | fuel + 1, alternatives => match sharedFirst? alternatives with
    | some p =>
      let (shared, rest) := splitShared fuel (alternatives.map List.tail)
      (p :: shared, rest)
    | none => ([], alternatives)

/-- The items of a set that an alternative amounts to. -/
def asSet? : List Pattern → Option (List SetItem)
  | [.test _ (.char c false)] => some [.char c]
  | [.test _ (.set items false)] => some items
  | _ => none

/-- Alternatives: what they have in common comes first, and alternatives that are all about a
single code point are a set. -/
def joinAlternatives (flags : Flags) (alternatives : List (List Pattern)) : List Pattern :=
  match alternatives with
  | [one] => one
  | several =>
    let fuel := (several.headD []).length
    let (shared, rest) := splitShared fuel several
    match rest.mapM asSet? with
    | some items => shared ++ [setTest flags items.flatten.eraseDups false]
    | none => shared ++ [ofAlternatives (rest.map ofList)]

/-- The comment whose beginning has been read, up to its end. -/
def skipComment (start : Nat) : Nat → Reading Unit
  | 0 => return ()
  | fuel + 1 => do
    match ← peek with
    | none => failAt .openComment start
    | some _ => if (← take) = some [CodePoint.ofChar ')'] then return () else skipComment start fuel

/-- The rest of a line that is a comment. -/
def skipLine : Nat → Reading Unit
  | 0 => return ()
  | fuel + 1 => do
    match ← take with
    | none => return ()
    | some token => if token = [CodePoint.ofNat 0x0A] then return () else skipLine fuel

/-- What a group adds to its surroundings: an item, or flags for the whole pattern, or nothing. -/
inductive GroupResult where
  | item (item : Item)
  | wholeFlags
  | nothing

/-- The flags that groups around the present place turn on and off, outermost first. -/
abbrev Surroundings := List (Flags × Flags)

/-- The flags at the present place. -/
def flagsHere (around : Surroundings) : Reading Flags := do
  return around.foldl (fun f change => f.inside change.1 change.2) (← get).flags

/-- How deeply patterns may be nested, where alternatives and items in a row count one each. -/
def depthBound : Nat := 984

/-- A depth is refused beyond the bound. -/
def checkDepth (depth : Nat) : Reading Unit :=
  if depthBound < depth then throw (.breakdown .nestedTooDeeply) else return ()

mutual

/-- Alternatives with bars between them, at a depth; those at depth zero are the whole text. -/
def readAlternatives : Nat → Surroundings → Bool → Nat → Reading (List Pattern)
  | 0, _, _, _ => return []
  | fuel + 1, around, verbose, depth => do
    checkDepth depth
    let alternatives ← readBranches fuel around verbose depth (depth = 0)
    return joinAlternatives (← flagsHere around) alternatives

/-- The alternatives that are left, each of them items in a row. -/
def readBranches : Nat → Surroundings → Bool → Nat → Bool → Reading (List (List Pattern))
  | 0, _, _, _, _ => return []
  | fuel + 1, around, verbose, depth, first => do
    let ps ← readItems fuel around verbose (depth + 1) first []
    if ← accept '|' then
      let s ← get
      let verbose := if depth = 0 then s.flags.verbose else verbose
      return ps :: (← readBranches fuel around verbose depth false)
    else return [ps]

/-- Items in a row, after those read already, which are in reverse, up to a bar, a closing
parenthesis or the end. -/
def readItems : Nat → Surroundings → Bool → Nat → Bool → List Item → Reading (List Pattern)
  | 0, _, _, _, _, items => return items.reverse.flatMap Item.patterns
  | fuel + 1, around, verbose, depth, first, items => do
    checkDepth depth
    match ← peek with
    | none => return items.reverse.flatMap Item.patterns
    | some this =>
      if this = [CodePoint.ofChar '|'] || this = [CodePoint.ofChar ')'] then
        return items.reverse.flatMap Item.patterns
      else
        let start ← tell
        let _ ← take
        let flags ← flagsHere around
        let more := fun (p : Pattern) =>
          readItems fuel around verbose depth first (.single p :: items)
        match this with
        | [c] =>
          if verbose && (c.within 0x09 0x0D || c.val == 0x20) then
            readItems fuel around verbose depth first items
          else if verbose && c.val == 0x23 then
            skipLine ((← get).rest.length + 1)
            readItems fuel around verbose depth first items
          else match Char.ofNat c.val with
            | '[' => more (← readSet flags)
            | '.' => more (.test .exact (.any flags.dotAll))
            | '^' => more (.anchor (if flags.multiline then .lineStart else .textStart))
            | '$' => more (.anchor (if flags.multiline then .lineEnd else .lastLineEnd))
            | '(' =>
              match ← readGroup fuel around verbose depth start (first && items.isEmpty) with
              | .item item => readItems fuel around verbose depth first (item :: items)
              | .wholeFlags => do
                let s ← get
                readItems fuel around s.flags.verbose depth first items
              | .nothing => readItems fuel around verbose depth first items
            | d =>
              if d == '*' || d == '+' || d == '?' || d == '\x7b' then
                match ← repeatRange c (start + 1) with
                | some range =>
                  let items ← repeatLast items (start + 1) 1 range
                  readItems fuel around verbose depth first items
                | none => more (charTest flags c false)
              else more (charTest flags c false)
        | escape => more (← escapeOutside flags escape)

/-- The group whose parenthesis, at a place, has been read. -/
def readGroup : Nat → Surroundings → Bool → Nat → Nat → Bool → Reading GroupResult
  | 0, _, _, _, _, _ => return .nothing
  | fuel + 1, around, verbose, depth, start, atStart => do
    let inside : Reading (List Pattern) := readAlternatives fuel around verbose (depth + 1)
    let capture (name : Option Text) : Reading GroupResult := do
      let index ← openGroup name
      let body := ofList (← inside)
      closeParenthesis start
      closeGroup index body
      return .item (.single (.group (some index) body))
    if ← accept '?' then
      match ← take with
      | none => fail .unexpectedEnd 0
      | some letter =>
        let c := match letter with
          | [c] => Char.ofNat c.val
          | _ => '\\'
        match c with
        | 'P' =>
          if ← accept '<' then
            let name ← takeName '>' "group name"
            checkName name
            capture (some name)
          else if ← accept '=' then
            let name ← takeName ')' "group name"
            checkName name
            let s ← get
            match s.names.find? fun entry => entry.1 = name with
            | none => fail (.unknownName name) (name.length + 1)
            | some (_, index) =>
              if !isClosed s index then fail .openGroupReference (name.length + 1)
              else
                checkLookBehind index
                return .item (.single (← referTo index (← flagsHere around)))
          else match ← take with
            | none => fail .unexpectedEnd 0
            | some next => fail (.unknownExtension ("P" ++ next)) (next.length + 2)
        | ':' =>
          let body ← inside
          closeParenthesis start
          return .item (.grouped body)
        | '#' =>
          skipComment start ((← get).rest.length + 1)
          return .nothing
        | '=' | '!' =>
          let body ← inside
          closeParenthesis start
          return .item (.single (.look false (c == '!') (ofList body)))
        | '<' =>
          match ← take with
          | none => fail .unexpectedEnd 0
          | some next =>
            if next = [CodePoint.ofChar '='] || next = [CodePoint.ofChar '!'] then
              let outer := (← get).behind
              if outer.isNone then modify fun s => { s with behind := some (s.groups.length + 1) }
              let body ← inside
              if outer.isNone then modify ({ · with behind := none })
              closeParenthesis start
              return .item (.single (.look true (next = [CodePoint.ofChar '!']) (ofList body)))
            else fail (.unknownExtension ("<" ++ next)) (next.length + 2)
        | '(' =>
          let index ← conditionGroup
          checkLookBehind index
          let present ← readItems fuel around verbose (depth + 1) false []
          let absent ←
            if ← accept '|' then
              let items ← readItems fuel around verbose (depth + 1) false []
              if (← peek) = some [CodePoint.ofChar '|'] then fail .tooManyBranches 0
              else pure items
            else pure []
          closeParenthesis start
          return .item (.single (.choice index (ofList present) (ofList absent)))
        | '>' =>
          let body ← inside
          closeParenthesis start
          return .item (.single (.atomic (ofList body)))
        | _ =>
          if (Flags.ofLetter? letter).isSome || letter = [CodePoint.ofChar 'L'] || c == '-' then
            match ← readFlags letter with
            | none => if atStart then return .wholeFlags else failAt .flagsNotAtStart start
            | some (on, off) =>
              let inner := (verbose || on.verbose) && !off.verbose
              let body ← readAlternatives fuel (around ++ [(on, off)]) inner (depth + 1)
              closeParenthesis start
              return .item (.single (.group none (ofList body)))
          else fail (.unknownExtension letter) (letter.length + 1)
    else capture none

end

/-- The first mistake that shows only when a pattern is complete: a look-behind of varying
width, or a repetition in a template. -/
def lateProblem? (template : Bool) : Pattern → Option Problem
  | .empty | .never | .test .. | .anchor _ | .backReference .. => none
  | .cat a b | .alt a b | .choice _ a b => (lateProblem? template a).or (lateProblem? template b)
  | .group _ body | .atomic body => lateProblem? template body
  | .repeated _ _ greed body =>
    if template then some (.templateRepeat greed) else lateProblem? template body
  | .look behind _ body =>
    if behind && body.width.low ≠ body.width.high then some .lookBehindWidth
    else lateProblem? template body

/-- How deeply groups, alternatives, repetitions and the like are nested. -/
def depth : Pattern → Nat
  | .empty | .never | .test .. | .anchor _ | .backReference .. => 0
  | .cat a b => max (depth a) (depth b)
  | .alt a b => max (depth a + 1) (depth b)
  | .choice _ a b => max (depth a) (depth b) + 1
  | .group _ body | .atomic body | .repeated _ _ _ body | .look _ _ body => depth body + 1

/-- Some look-behind is 2^31 code points long or longer. -/
def looksTooFar : Pattern → Bool
  | .empty | .never | .test .. | .anchor _ | .backReference .. => false
  | .cat a b | .alt a b | .choice _ a b => looksTooFar a || looksTooFar b
  | .group _ body | .atomic body | .repeated _ _ _ body => looksTooFar body
  | .look behind _ body => (behind && Nat.pow 2 31 ≤ body.width.low) || looksTooFar body

/-- The pattern of a whole text, before the last checks. -/
def readWhole (fuel : Nat) : Reading Pattern := do
  check
  let pattern := ofList (← readAlternatives fuel [] false 0)
  let s ← get
  if s.flags.ascii && s.flags.unicode then throw (.breakdown .asciiAndUnicode)
  else if !s.rest.isEmpty then fail .unbalanced 0
  else match s.conditions.find? fun entry => s.groups.length < entry.1 with
    | some (index, place) => failAt (.invalidReference index) place
    | none =>
      if depthBound < depth pattern then throw (.breakdown .nestedTooDeeply)
      else match lateProblem? s.flags.template pattern with
        | some problem => throw (.fault ⟨problem, none, s.whole⟩)
        | none =>
          if looksTooFar pattern then throw (.breakdown .lookBehindTooLong) else return pattern

/-- The pattern of a text. -/
def parse (text : Text) : Except Failure Pattern :=
  let source : Source := ⟨tokens 0 text, text, Flags.none, [], [], none, []⟩
  (·.1) <$> (readWhole (6 * text.length + 8)).run source

end Mailroom.Pattern
