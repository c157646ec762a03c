import Mailroom.Files.Disk
import Mailroom.Files.Path
import Mailroom.Text.Utf8

/-!
# Trees of files

* `FileTree`: the files and directories below a place;
* `FileTree.follow`: where the parts of a path lead;
* `FileTree.disk`: a tree below the working directory, with little else around.
-/

namespace Mailroom

/-- The files and directories below a place, each with the names on the way to it. -/
structure FileTree where
  files : List (List Text × Octets)
  directories : List (List Text)

namespace FileTree

/-- There is a directory: it is named, or something is below it. -/
def hasDirectory (tree : FileTree) (place : List Text) : Bool :=
  place.isEmpty || tree.directories.any place.isPrefixOf
    || tree.files.any fun (path, _) => place.isPrefixOf path && place ≠ path

/-- The octets of the file at a place. -/
def file? (tree : FileTree) (place : List Text) : Option Octets :=
  (tree.files.find? fun (path, _) => path = place).map (·.2)

/-- How many octets the name of a file may have. -/
def nameLimit : Nat := 255

/-- How many octets a path may have, the end mark included. -/
def pathLimit : Nat := 4096

/-- How many octets a text has. -/
def size (t : Text) : Nat := ((Utf8.encode? t).getD []).length

/-- A file or directory. -/
inductive Found where
  | file (octets : Octets)
  | directory

/-- What is above a place. Nothing is known above a working directory; above the root is the
root. -/
def above? (isRoot : Bool) : List Text → Option (List Text)
  | [] => if isRoot then some [] else none
  | place => some place.dropLast

/-- Where the parts of a path lead from a directory. -/
def follow (tree : FileTree) (isRoot : Bool) (place : List Text) :
    List Text → Except FileFault Found
  | [] => .ok .directory
  | part :: parts =>
    if part = Text.ofString ".." then
      match above? isRoot place with
      | some place => follow tree isRoot place parts
      | none => .error .missing
    else if nameLimit < size part then .error .nameTooLong
    else
      let next := place ++ [part]
      match tree.file? next with
      | some octets => if parts.isEmpty then .ok (.file octets) else .error .inNoDirectory
      | none =>
        if tree.hasDirectory next then follow tree isRoot next parts else .error .missing

/-- What every system has. -/
def system : FileTree where
  files := [(["dev", "null"], [])]
  directories := [["bin"], ["dev"], ["etc"], ["home"], ["lib"], ["opt"], ["proc"], ["root"],
    ["run"], ["sbin"], ["sys"], ["tmp"], ["usr"], ["var"]]

/-- What a path leads to from the working directory or the root. -/
def find (tree : FileTree) (path : Text) : Except FileFault Found :=
  let p := Path.parse path
  if path.isEmpty then .error .missing
  else if pathLimit ≤ size path then .error .nameTooLong
  else if p.root = .here then follow tree false [] p.parts
  else follow system true [] p.parts

/-- A tree below the working directory, with little else around. -/
def disk (tree : FileTree) : Disk where
  read path := match tree.find path with
    | .ok (.file octets) => .ok octets
    | .ok .directory => .error .isDirectory
    | .error fault => .error fault
  has path := (tree.find path).isOk

end FileTree

end Mailroom
