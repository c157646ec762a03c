import Mailroom.Text.CodePoint

/-!
# Files to be read

* `FileFault`: why a file cannot be opened, with the number and wording of the system;
* `Disk`: what there is to be read.
-/

namespace Mailroom

/-- Why a file cannot be opened. -/
inductive FileFault where
  | missing
  | inNoDirectory
  | isDirectory
  | nameTooLong
  | other (number : Nat) (reason : Text)
deriving DecidableEq

/-- The number of the system for a reason. -/
def FileFault.number : FileFault → Nat
  | missing => 2
  | inNoDirectory => 20
  | isDirectory => 21
  | nameTooLong => 36
  | other number _ => number

/-- The wording of the system for a reason. -/
def FileFault.reason : FileFault → Text
  | missing => "No such file or directory"
  | inNoDirectory => "Not a directory"
  | isDirectory => "Is a directory"
  | nameTooLong => "File name too long"
  | other _ reason => reason

/-- What there is to be read: the octets of the file at a path, and whether anything is
there. -/
structure Disk where
  read : Text → Except FileFault Octets
  has : Text → Bool

end Mailroom
