import DiffGauge.Path

/-!
# Files

What stands at a path: a file, a directory, or nothing. Looking further below a file is a fault
of its own, because a file holds no paths.
-/

namespace DiffGauge

/-- The content of a file. -/
abbrev Bytes := List UInt8

/-- What stands at a path. -/
inductive Found where
  | file (content : Bytes)
  | directory
  | missing
  | insideFile
  deriving DecidableEq, Repr

/-- The content of a file, if one was found. -/
def Found.content? : Found → Option Bytes
  | .file content => some content
  | _ => none

/-- Something was found. -/
def Found.isThere : Found → Bool
  | .file _ => true
  | .directory => true
  | _ => false

/-- What stands at each path. -/
abbrev Files := String → Found

/-- Some files and directories by the parts of their absolute paths; a directory has no content.
    Every path above one of them is a directory as well. -/
structure Disk where
  entries : List (List String × Option Bytes)

/-- What stands at the absolute path with some parts. -/
def Disk.at (d : Disk) (parts : List String) : Found :=
  match d.entries.lookup parts with
  | some (some content) => .file content
  | some none => .directory
  | none => if d.entries.any fun e => parts.isPrefixOf e.1 then .directory else .missing

/-- Walks from a directory through segments; `..` goes one up, and only a directory can be
    walked through. -/
def Disk.walk (d : Disk) : List String → List String → Found
  | here, [] => d.at here
  | here, s :: segments =>
    match d.at here with
    | .directory =>
      if s = ".." then d.walk (if here.length ≤ 1 then here else here.dropLast) segments
      else d.walk (here ++ [s]) segments
    | .file _ => .insideFile
    | found => found

/-- What stands at a path that is seen from a directory. -/
def Disk.found (d : Disk) (root : String) : Files := fun path =>
  match Path.parts (Path.within root path) with
  | [] => .missing
  | top :: segments => d.walk [top] segments

end DiffGauge
