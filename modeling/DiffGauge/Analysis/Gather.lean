import DiffGauge.Analysis.Run

/-!
# Gathering sources

The sources of a diff are fetched before it is analysed: the new ones of the Rust files that are
not deleted, and the old ones of the Rust files that are not new.
-/

namespace DiffGauge.Analysis

open Diff

/-- The path of a Rust file. -/
def isRustPath (path : String) : Bool := Text.hasTail rustSuffix path.toList

/-- The path whose new source is fetched. -/
def newPath? (f : FileDiff) : Option String :=
  if f.isBinary then none
  else if f.status != .deleted && isRustPath f.path then some f.path
  else none

/-- The path whose old source is fetched. -/
def oldPath? (f : FileDiff) : Option String :=
  if f.isBinary || f.status == .added then none
  else f.oldPath.filter isRustPath

/-- The paths whose new sources are fetched. -/
def newPaths (files : List FileDiff) : List String := files.filterMap newPath?

/-- The paths whose old sources are fetched. -/
def oldPaths (files : List FileDiff) : List String := files.filterMap oldPath?

/-- Fetches sources one after another. Paths that have none are left out. -/
def gather {m : Type → Type} [Monad m] (fetch : String → m (Option String)) :
    List String → m (List (String × String))
  | [] => return []
  | path :: paths => do
    let source ← fetch path
    let rest ← gather fetch paths
    return match source with
      | some text => (path, text) :: rest
      | none => rest

/-- The sources in a list. -/
def Sources.ofList (sources : List (String × String)) : Sources := fun path => sources.lookup path

end DiffGauge.Analysis
