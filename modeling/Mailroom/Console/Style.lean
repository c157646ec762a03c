import Mailroom.Text.Blank
import Mailroom.Text.Integer
import Mailroom.Text.Lower
import Mailroom.Text.Split

/-!
# Styles of printed text

A style is written as words: properties, perhaps denied, a colour, a background and a link.

* `Style.parse`: the style of some words;
* `Style.shown`: the words of a style in a fixed order;
* `Style.normal`: the one name of a style, whichever way it is written. What is no style is its
  own name, in small letters.
-/

namespace Mailroom

/-- The names of properties, in order, each with its short forms. -/
def stylePropertyNames : List (String × List String) := [
  ("bold", ["b"]), ("dim", ["d"]), ("italic", ["i"]), ("underline", ["u"]), ("blink", []),
  ("blink2", []), ("reverse", ["r"]), ("conceal", ["c"]), ("strike", ["s"]),
  ("underline2", ["uu"]), ("frame", []), ("encircle", []), ("overline", ["o"])]

/-- The names of colours. -/
def colourNames : List String := [
  "black", "red", "green", "yellow", "blue", "magenta", "cyan", "white", "bright_black",
  "bright_red", "bright_green", "bright_yellow", "bright_blue", "bright_magenta", "bright_cyan",
  "bright_white", "grey0", "gray0", "navy_blue", "dark_blue", "blue3", "blue1", "dark_green",
  "deep_sky_blue4", "dodger_blue3", "dodger_blue2", "green4", "spring_green4", "turquoise4",
  "deep_sky_blue3", "dodger_blue1", "green3", "spring_green3", "dark_cyan", "light_sea_green",
  "deep_sky_blue2", "deep_sky_blue1", "spring_green2", "cyan3", "dark_turquoise", "turquoise2",
  "green1", "spring_green1", "medium_spring_green", "cyan2", "cyan1", "dark_red", "deep_pink4",
  "purple4", "purple3", "blue_violet", "orange4", "grey37", "gray37", "medium_purple4",
  "slate_blue3", "royal_blue1", "chartreuse4", "dark_sea_green4", "pale_turquoise4", "steel_blue",
  "steel_blue3", "cornflower_blue", "chartreuse3", "cadet_blue", "sky_blue3", "steel_blue1",
  "pale_green3", "sea_green3", "aquamarine3", "medium_turquoise", "chartreuse2", "sea_green2",
  "sea_green1", "aquamarine1", "dark_slate_gray2", "dark_magenta", "dark_violet", "purple",
  "light_pink4", "plum4", "medium_purple3", "slate_blue1", "yellow4", "wheat4", "grey53",
  "gray53", "light_slate_grey", "light_slate_gray", "medium_purple", "light_slate_blue",
  "dark_olive_green3", "dark_sea_green", "light_sky_blue3", "sky_blue2", "dark_sea_green3",
  "dark_slate_gray3", "sky_blue1", "chartreuse1", "light_green", "pale_green1",
  "dark_slate_gray1", "red3", "medium_violet_red", "magenta3", "dark_orange3", "indian_red",
  "hot_pink3", "medium_orchid3", "medium_orchid", "medium_purple2", "dark_goldenrod",
  "light_salmon3", "rosy_brown", "grey63", "gray63", "medium_purple1", "gold3", "dark_khaki",
  "navajo_white3", "grey69", "gray69", "light_steel_blue3", "light_steel_blue", "yellow3",
  "dark_sea_green2", "light_cyan3", "light_sky_blue1", "green_yellow", "dark_olive_green2",
  "dark_sea_green1", "pale_turquoise1", "deep_pink3", "magenta2", "hot_pink2", "orchid",
  "medium_orchid1", "orange3", "light_pink3", "pink3", "plum3", "violet", "light_goldenrod3",
  "tan", "misty_rose3", "thistle3", "plum2", "khaki3", "light_goldenrod2", "light_yellow3",
  "grey84", "gray84", "light_steel_blue1", "yellow2", "dark_olive_green1", "honeydew2",
  "light_cyan1", "red1", "deep_pink2", "deep_pink1", "magenta1", "orange_red1", "indian_red1",
  "hot_pink", "dark_orange", "salmon1", "light_coral", "pale_violet_red1", "orchid2", "orchid1",
  "orange1", "sandy_brown", "light_salmon1", "light_pink1", "pink1", "plum1", "gold1",
  "navajo_white1", "misty_rose1", "thistle1", "yellow1", "light_goldenrod1", "khaki1", "wheat1",
  "cornsilk1", "grey100", "gray100", "grey3", "gray3", "grey7", "gray7", "grey11", "gray11",
  "grey15", "gray15", "grey19", "gray19", "grey23", "gray23", "grey27", "gray27", "grey30",
  "gray30", "grey35", "gray35", "grey39", "gray39", "grey42", "gray42", "grey46", "gray46",
  "grey50", "gray50", "grey54", "gray54", "grey58", "gray58", "grey62", "gray62", "grey66",
  "gray66", "grey70", "gray70", "grey74", "gray74", "grey78", "gray78", "grey82", "gray82",
  "grey85", "gray85", "grey89", "gray89", "grey93", "gray93"]

/-- A style of printed text. -/
structure Style where
  /-- Whether properties are asked for or denied; what is said last comes first. -/
  properties : List (Text × Bool)
  colour : Option Text
  background : Option Text
  link : Option Text
deriving DecidableEq

namespace Style

/-- Why words are no style. -/
inductive Fault where
  /-- They are not made like one. -/
  | unknown
  /-- A part of a colour is no number that can be read. -/
  | noNumber
deriving DecidableEq

/-- The style without anything. -/
def plain : Style := ⟨[], none, none, none⟩

/-- The name of the property that a word stands for. -/
def property? (word : Text) : Option Text :=
  (stylePropertyNames.find? fun (name, short) =>
    (name :: short).any fun s => Text.ofString s = word).map fun (name, _) => Text.ofString name

/-- What stands between a beginning and an end. -/
def between? (opening closing : Text) (t : Text) : Option Text :=
  if opening.isPrefixOf t ∧ closing.isSuffixOf t ∧ opening.length + closing.length ≤ t.length then
    some ((t.drop opening.length).take (t.length - opening.length - closing.length))
  else none

/-- One of the three parts of a colour, which is at most 255. -/
def component (t : Text) : Except Fault Unit :=
  match Text.toNat? t with
  | some n => if n ≤ 255 then .ok () else .error .unknown
  | none => .error .noNumber

/-- Three parts of a colour. All have to be numbers before any can be too large. -/
def components (parts : List Text) : Except Fault Unit :=
  if parts.length ≠ 3 then .error .unknown
  else if parts.any fun part => (Text.toNat? part).isNone then .error .noNumber
  else parts.forM component

/-- A word in small letters names a colour: by its name, by hexadecimal digits, by a number, or by
three parts. -/
def checkColour (word : Text) : Except Fault Unit :=
  if word = Text.ofString "default" ∨ colourNames.any fun s => Text.ofString s = word then .ok ()
  else match between? "#" [] word with
    | some digits =>
      if digits.length = 6 ∧ digits.all fun c => c.hexValue?.isSome then .ok ()
      else .error .unknown
    | none => match between? "color(" ")" word with
      | some digits =>
        if digits.length ≤ 3 ∧ digits.all CodePoint.isAsciiDigit then
          match Text.toNat? digits with
          | some n => if n ≤ 255 then .ok () else .error .unknown
          | none => .error .unknown
        else .error .unknown
      | none => match between? "rgb(" ")" word with
        | some parts =>
          if !parts.isEmpty
              && parts.all fun c => c.isDecimalDigit || c = CodePoint.ofChar ',' then
            components (parts.splitOn ',')
          else .error .unknown
        | none => .error .unknown

/-- A colour in small letters. -/
def colourOf (word : Text) : Except Fault Text := do
  checkColour word.lower
  return word.lower

/-- A style with more words. -/
def addWords : List Text → Style → Except Fault Style
  | [], s => .ok s
  | [word], s =>
    let small := word.lower
    if [Text.ofString "on", "not", "link"].contains small then .error .unknown
    else match property? small with
      | some name => .ok { s with properties := (name, true) :: s.properties }
      | none => do return { s with colour := some (← colourOf small) }
  | word :: next :: words, s =>
    let small := word.lower
    if small = Text.ofString "on" then do
      addWords words { s with background := some (← colourOf next) }
    else if small = Text.ofString "not" then
      match property? next with
      | some name => addWords words { s with properties := (name, false) :: s.properties }
      | none => .error .unknown
    else if small = Text.ofString "link" then addWords words { s with link := some next }
    else match property? small with
      | some name =>
        addWords (next :: words) { s with properties := (name, true) :: s.properties }
      | none => do
        let colour ← colourOf small
        addWords (next :: words) { s with colour := some colour }

/-- The style of some words. -/
def parse (definition : Text) : Except Fault Style :=
  if definition.trim = Text.ofString "none" then .ok plain else addWords definition.words plain

/-- The words for a property, if anything is said about it. -/
def propertyWords (s : Style) (name : Text) : List Text :=
  match s.properties.find? fun (n, _) => n = name with
  | some (_, true) => [name]
  | some (_, false) => [Text.ofString "not " ++ name]
  | none => []

/-- The words of a style in a fixed order. -/
def shown (s : Style) : Text :=
  let words : List Text :=
    stylePropertyNames.flatMap (fun (name, _) => s.propertyWords (Text.ofString name))
      ++ s.colour.toList ++ (s.background.map (Text.ofString "on " ++ ·)).toList
      ++ (s.link.map (Text.ofString "link " ++ ·)).toList
  if words.isEmpty then "none" else Text.join " " words

/-- The one name of a style. What is no style is its own name, in small letters. -/
def normal (definition : Text) : Except Fault Text :=
  match parse definition with
  | .ok s => .ok s.shown
  | .error .unknown => .ok definition.trim.lower
  | .error .noNumber => .error .noNumber

end Style

end Mailroom
