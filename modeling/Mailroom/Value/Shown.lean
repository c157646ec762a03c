import Mailroom.Number.Decimal
import Mailroom.Text.Quoted
import Mailroom.Value.Basic

/-!
# Values as text

* `Value.shown?`: the text of a value; a text is itself, and collections show their parts in
  quotation marks;
* `Value.quoted?`: a value as part of a collection.

A collection that is shown already, because it is a part of itself, is only hinted at. Integers of more than 4300 digits have no text.
-/

namespace Mailroom

namespace Scalar

/-- How many digits an integer may have to be written. -/
def digitLimit : Nat := 4300

/-- The digits of an integer, if there are not too many. -/
def shownInt? (n : Int) : Option Text :=
  if (Text.ofNat n.natAbs).length ≤ digitLimit then some (Text.ofInt n) else none

/-- The value as part of a collection. -/
def quoted? : Scalar → Option Text
  | null => some "None"
  | bool b => some (if b then "True" else "False")
  | int n => shownInt? n
  | real x => some x.shown
  | text t => some t.quoted
  | octets bytes => some (Octets.quoted bytes)
  | date d => some d.call
  | moment m => some m.call

/-- The text of a value. -/
def shown? : Scalar → Option Text
  | text t => some t
  | date d => some d.shown
  | moment m => some m.shown
  | s => s.quoted?

end Scalar

namespace Value

/-- The text of an entry: a key, a colon and a value. -/
def entryText (key value : Text) : Text := key ++ ": " ++ value

/-- Texts with commas between them, between two brackets. -/
def bracketed (left right : Text) (ts : List Text) : Text := left ++ Text.join ", " ts ++ right

mutual

/-- The value as part of a collection, where there is a text for each numbered collection. -/
def quotedWith? (part? : Nat → Option Text) : Value → Option Text
  | scalar s => s.quoted?
  | list items => (quotedItems? part? items).map (bracketed "[" "]")
  | pairs items => (quotedPairs? part? items).map (bracketed "[" "]")
  | mapping entries => (quotedEntries? part? entries).map (bracketed "\x7b" "\x7d")
  | members items =>
    if items.isEmpty then some "set()"
    else (items.mapM Scalar.quoted?).map (bracketed "\x7b" "\x7d")
  | part number => part? number

/-- The parts of a list. -/
def quotedItems? (part? : Nat → Option Text) : List Value → Option (List Text)
  | [] => some []
  | v :: vs => do
    let t ← quotedWith? part? v
    let ts ← quotedItems? part? vs
    return t :: ts

/-- The pairs of a list of pairs. -/
def quotedPairs? (part? : Nat → Option Text) : List (Value × Value) → Option (List Text)
  | [] => some []
  | (k, v) :: rest => do
    let a ← quotedWith? part? k
    let b ← quotedWith? part? v
    let ts ← quotedPairs? part? rest
    return bracketed "(" ")" [a, b] :: ts

/-- The entries of a mapping. -/
def quotedEntries? (part? : Nat → Option Text) : List (Scalar × Value) → Option (List Text)
  | [] => some []
  | (k, v) :: rest => do
    let a ← k.quoted?
    let b ← quotedWith? part? v
    let ts ← quotedEntries? part? rest
    return entryText a b :: ts

end

/-- What stands for a collection that is shown already. -/
def hint : Value → Text
  | mapping _ => "\x7b...\x7d"
  | _ => "[...]"

/-- A numbered collection as part of another, when some are being shown already. The first
number bounds how many more can be begun. -/
def quotedPart? (parts : Parts) : Nat → List Nat → Nat → Option Text
  | 0, _, _ => none
  | more + 1, around, number =>
    let v := (part number).opened parts
    if around.contains number then some v.hint
    else quotedWith? (quotedPart? parts more (number :: around)) v

/-- The value as part of a collection. -/
def quoted? (parts : Parts) (v : Value) : Option Text :=
  quotedWith? (quotedPart? parts (parts.size + 1) []) v

/-- The text of a value. -/
def shown? (parts : Parts) : Value → Option Text
  | scalar s => s.shown?
  | v => v.quoted? parts

@[simp] theorem shown?_text (parts : Parts) (t : Text) : shown? parts (ofText t) = some t := rfl

end Value

end Mailroom
