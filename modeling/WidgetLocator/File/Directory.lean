import WidgetLocator.File.Error

/-! Paths in a directory that holds files and no other directories. A path is walked name by name; a
name that is empty or a single dot stays where it is, two dots lead up, and nothing leads on from a
file. Of the world above the directory no more is known than the top of the tree. -/

namespace WidgetLocator

abbrev Directory := String → Option String

namespace Directory

inductive Place where
  /-- The directory that paths start from. -/
  | here
  | root
  | otherDirectory
  | file (text : String)
deriving DecidableEq, Repr

/-- Directories that stand in the root of every system. -/
def rootNames : List String := ["bin", "dev", "etc", "proc", "sys", "tmp", "usr", "var"]

def child? (d : Directory) (name : String) : Place → Option Place
  | .here => (d name).map .file
  | .root => if rootNames.contains name then some .otherDirectory else none
  | .otherDirectory | .file _ => none

def parent : Place → Place
  | .root => .root
  | _ => .otherDirectory

def step (d : Directory) (place : Place) (name : List Char) : Except FileError Place :=
  match place with
  | .file _ => .error .notADirectory
  | _ =>
    if name = [] || name = ['.'] then .ok place
    else if name = ['.', '.'] then .ok (parent place)
    else if (String.ofList name).utf8ByteSize > 255 then .error .nameTooLong
    else
      match d.child? (String.ofList name) place with
      | some place => .ok place
      | none => .error .notFound

def walk (d : Directory) (path : String) : Except FileError Place :=
  let cs := path.toList
  if cs = [] then .error .notFound
  else if path.utf8ByteSize ≥ 4096 then .error .nameTooLong
  else (cs.splitOn '/').foldlM d.step (if cs.head? = some '/' then .root else .here)

def files (d : Directory) : Files := fun path =>
  match d.walk path with
  | .ok (.file text) => .ok text
  | .ok _ => .error .isADirectory
  | .error e => .error e

end Directory
end WidgetLocator
