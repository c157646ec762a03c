import Mailroom.Yaml.Fault
import Mailroom.Yaml.Node

/-!
# Entries taken over from other mappings

A mapping can name others whose entries it takes over. They come before its own, so that its
own prevail, and of several mappings the last one's come first. Taking over changes the mapping
itself: it is done once, and who takes over entries from it later gets them all.

* `Graph.takeOver`: a mapping takes over the entries it names.
-/

namespace Mailroom.Yaml

/-- A step that changes nodes. -/
abbrev Change (α : Type) := StateT Graph (Except Fault) α

namespace Change

/-- The entries of a mapping. -/
def entries (number : Nat) : Change (List (Nat × Nat)) := do
  match (← get).node number with
  | .mapping _ entries => return entries
  | _ => throw .malformed

/-- The entries of a mapping become other ones. -/
def setEntries (number : Nat) (entries : List (Nat × Nat)) : Change Unit :=
  modify fun g => g.put number (.mapping (g.node number).kind entries)

/-- The key of an entry is of some kind. -/
def hasKind (kind : Kind) (entry : Nat × Nat) : Change Bool := do
  return ((← get).node entry.1).kind = kind

/-- The first entry whose key is of some kind, with the others before and behind it. -/
def splitAt? (g : Graph) (kind : Kind) (entries : List (Nat × Nat)) :
    Option (List (Nat × Nat) × Nat × List (Nat × Nat)) :=
  let isOther (entry : Nat × Nat) : Bool := (g.node entry.1).kind ≠ kind
  match entries.dropWhile isOther with
  | (_, value) :: after => some (entries.takeWhile isOther, value, after)
  | [] => none

/-- The keys that stand for the value of a mapping become plain texts. -/
def makeTexts (entries : List (Nat × Nat)) : Change Unit :=
  entries.forM fun entry => do
    if ← hasKind .defaultValue entry then
      modify fun g => g.put entry.1 ((g.node entry.1).withKind .text)

/-- The entries that a mapping takes over; what names them is gone. The bound is the number of
entries, since each step does away with one. -/
def taken : Nat → Nat → Change (List (Nat × Nat))
  | 0, _ => return []
  | bound + 1, number => do
    let own ← entries number
    match splitAt? (← get) .merge own with
    | none =>
      makeTexts own
      return []
    | some (before, value, after) =>
      setEntries number (before ++ after)
      let completed (source : Nat) : Change (List (Nat × Nat)) := do
        let found ← taken bound source
        let rest ← entries source
        if found.isEmpty then return rest
        else
          setEntries source (found ++ rest)
          return found ++ rest
      let first ← match (← get).node value with
        | .mapping .. => completed value
        | .list _ items => do
          let groups ← items.mapM fun item => do
            match (← get).node item with
            | .mapping .. => completed item
            | _ => throw .malformed
          pure groups.reverse.flatten
        | .scalar .. => throw .malformed
      return first ++ (← taken bound number)

end Change

/-- A mapping takes over the entries that it names. -/
def Graph.takeOver (number : Nat) : Change Unit := do
  let found ← Change.taken ((← get).entryCount + 1) number
  if !found.isEmpty then Change.setEntries number (found ++ (← Change.entries number))

end Mailroom.Yaml
