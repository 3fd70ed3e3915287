import Sluice.Text.Basic
import Sluice.Text.Utf8

namespace Sluice

inductive FileFault where
  | missing
  -- A step of the path leads through something that is no folder.
  | notDirectory
  | nameTooLong
  | nulByte
  -- Any other reason, in the words of the system.
  | other (reason : String)
  deriving DecidableEq, Repr

def FileFault.message : FileFault → String
  | missing => "No such file or directory (os error 2)"
  | notDirectory => "Not a directory (os error 20)"
  | nameTooLong => "File name too long (os error 36)"
  | nulByte => "file name contained an unexpected NUL byte"
  | other reason => reason

inductive FileTree where
  | file (contents : Bytes)
  | folder (entries : List (String × FileTree))

namespace FileTree

-- How many bytes a path, with a byte behind its end, and a single name may have.
def pathLimit : Nat := 4096
def nameLimit : Nat := 255

-- Where one name leads from a folder. The folder above the root is the root.
def enter (root here : FileTree) (name : List Char) : Except FileFault FileTree :=
  match here with
  | file _ => .error .notDirectory
  | folder entries =>
    if name.isEmpty || name = ['.'] then .ok here
    else if name = ['.', '.'] then .ok root
    else if nameLimit < Utf8.size name then .error .nameTooLong
    else
      match entries.lookup (String.ofList name) with
      | some t => .ok t
      | none => .error .missing

def locate (root : FileTree) (path : String) : Except FileFault FileTree :=
  let cs := path.toList
  if cs.contains '\x00' then .error .nulByte
  else if cs.isEmpty then .error .missing
  else if pathLimit ≤ Utf8.size cs then .error .nameTooLong
  else (splitAtEach '/' cs).foldlM root.enter root

-- Opens what a path leads to. A folder can be opened, but there is nothing to be read in it.
def open? (root : FileTree) (path : String) : Except FileFault (Option Bytes) :=
  (root.locate path).map fun
    | file contents => some contents
    | folder _ => none

end FileTree

end Sluice
