import Mailroom.Calendar
import Mailroom.Number.Double

/-!
# Values of configurations

What a configuration file says, before anything is made of it.

* `Scalar`, `Value`: single values, and lists and mappings of them;
* `Parts`, `Document`: a value together with the collections that it names by number;
* `Scalar.sameKey`: two keys of a mapping are taken for one;
* `Value.put`, `Value.get`: a value put under a key, and looked up;
* `Value.isTrue`: the value is neither missing, nor zero, nor empty.
-/

namespace Mailroom

/-- A single value. -/
inductive Scalar where
  | null
  | bool (b : Bool)
  | int (n : Int)
  | real (x : Double)
  | text (t : Text)
  | octets (bytes : Octets)
  | date (d : Date)
  | moment (m : Moment)
deriving DecidableEq

/-- A value. A collection may stand in several places, within itself too, so it can be kept
apart and be named by number. -/
inductive Value where
  | scalar (s : Scalar)
  | list (items : List Value)
  /-- A list of pairs, in order. -/
  | pairs (items : List (Value × Value))
  | mapping (entries : List (Scalar × Value))
  /-- A collection of different single values. -/
  | members (items : List Scalar)
  /-- The collection with a number. -/
  | part (number : Nat)

/-- The collections that have numbers. -/
abbrev Parts := Array Value

namespace Scalar

/-- A number in whatever form: truth values count as zero and one. -/
def asInt? : Scalar → Option Int
  | bool b => some (if b then 1 else 0)
  | int n => some n
  | _ => none

/-- Two keys of a mapping are taken for one: equal numbers are, in whatever form, and equal
times, whatever their distance from universal time. -/
def sameKey (a b : Scalar) : Bool :=
  match a.asInt?, b.asInt? with
  | some m, some n => m == n
  | some m, none => match b with
    | real x => x.equalsInt m
    | _ => false
  | none, some n => match a with
    | real x => x.equalsInt n
    | _ => false
  | none, none => match a, b with
    | real x, real y => x.equals y
    | moment m, moment n => m.sameTime n
    | _, _ => a = b

/-- The value is neither missing, nor zero, nor empty. -/
def isTrue : Scalar → Bool
  | null => false
  | bool b => b
  | int n => n != 0
  | real x => !x.isZero
  | text t => !t.isEmpty
  | octets bytes => !bytes.isEmpty
  | date _ | moment _ => true

end Scalar

namespace Value

instance : Inhabited Value := ⟨scalar .null⟩

/-- The text as a value. -/
def ofText (t : Text) : Value := scalar (.text t)

/-- The entries with a value under a key. A key that is there already keeps its place. -/
def put {κ : Type} (same : κ → κ → Bool) (key : κ) (value : Value) :
    List (κ × Value) → List (κ × Value)
  | [] => [(key, value)]
  | (k, v) :: entries =>
    if same k key then (k, value) :: entries else (k, v) :: put same key value entries

/-- The value under a key that is a text; a missing one is no value. -/
def get (entries : List (Scalar × Value)) (key : Text) : Value :=
  match entries.find? fun (k, _) => k = .text key with
  | some (_, v) => v
  | none => scalar .null

/-- The value is missing. -/
def isNull : Value → Bool
  | scalar .null => true
  | _ => false

/-- The value itself, where it is a number that stands for a collection. -/
def opened (parts : Parts) : Value → Value
  | part number => (parts[number]?).getD (scalar .null)
  | v => v

/-- The value is neither missing, nor zero, nor empty. -/
def isTrue (parts : Parts) (v : Value) : Bool :=
  match v.opened parts with
  | scalar s => s.isTrue
  | list items => !items.isEmpty
  | pairs items => !items.isEmpty
  | mapping entries => !entries.isEmpty
  | members items => !items.isEmpty
  | part _ => true

@[simp] theorem get_nil (key : Text) : get [] key = scalar .null := rfl

@[simp] theorem opened_scalar (parts : Parts) (s : Scalar) :
    opened parts (scalar s) = scalar s := rfl

end Value

/-- A value and the collections that it names by number. -/
structure Document where
  root : Value
  parts : Parts

/-- The value by itself, naming no collections. -/
def Document.ofValue (v : Value) : Document := ⟨v, #[]⟩

end Mailroom
