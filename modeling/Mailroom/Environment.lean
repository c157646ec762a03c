import Mailroom.Text.Utf8

/-!
# Environment variables

* `Environment`: variables with their values, as octets;
* `Environment.get?`: the value of a variable;
* `Environment.ofBlock`: the variables of a block in which each is followed by an end mark.
-/

namespace Mailroom

/-- Variables with their values. -/
structure Environment where
  bindings : List (Octets × Octets)

/-- The value of a variable whose name has octets. -/
def Environment.value? (env : Environment) (name : Octets) : Option Text :=
  (env.bindings.find? fun (n, _) => n = name).map fun (_, value) => Utf8.decodeKeeping value

/-- The value of a variable, if it is set and its name can be written. -/
def Environment.get? (env : Environment) (name : Text) : Option Text :=
  (Utf8.encode? name).bind env.value?

/-- The pieces of a block, each of which is followed by an end mark. -/
def Environment.entries : Octets → List Octets
  | [] => []
  | b :: rest =>
    if b = 0 then [] :: entries rest
    else match entries rest with
      | entry :: others => (b :: entry) :: others
      | [] => [[b]]

/-- The variables of a block. Name and value are on the two sides of an equals sign. -/
def Environment.ofBlock (block : Octets) : Environment :=
  ⟨(entries block).map fun entry =>
    (entry.takeWhile (· ≠ 0x3D), (entry.dropWhile (· ≠ 0x3D)).drop 1)⟩

end Mailroom
