import DiffGauge.Command.Analyze
import DiffGauge.Proofs.Analysis.Lookups
import Mathlib

/-!
# The sources that are fetched

A comparison fetches the sources of its diff before the analysis looks any up. It fetches the new
source of every file that the analysis may ask for, but of the old sources only those of Rust
files, while the analysis takes the old source of any file that is a Rust file now.

* `sources_result` says which sources are fetched;
* `analyze_fetched` says that an analysis of them is one of all sources, without the old ones
  that are not under paths of Rust files;
* `exists_fetched_not_enough` shows a file that was no Rust file and whose old source is missed.
-/

namespace DiffGauge.Command

open Analysis Activity

variable {ε : Type}

/-- The sources that are fetched are read from the given ones, and none of them fails. -/
structure Comparison.ReadsFrom (c : Comparison ε) (new : Sources) (old : Option Sources) :
    Prop where
  new : ∀ path, (c.fetchNew path).result = .ok (new path)
  old : Option.Rel
    (fun fetch (sources : Sources) => ∀ path, (fetch path).result = .ok (sources path))
    c.fetchOld old

private theorem gather_result {fetch : String → Activity ε (Option String)} {sources : Sources}
    (h : ∀ path, (fetch path).result = .ok (sources path)) (paths : List String) :
    (gather fetch paths).result = .ok (sources.among paths) := by
  induction paths with
  | nil => rfl
  | cons path paths ih =>
      rw [gather, result_bind, h]
      show ((gather fetch paths) >>= _ : Activity ε _).result = _
      rw [result_bind, ih, Sources.among, Sources.among, List.filterMap_cons]
      cases sources path with
      | none => rfl
      | some text => rfl

/-- Of the new sources those that may be asked for are fetched, of the old ones those of Rust
    files. -/
theorem sources_result (machine : Machine ε) {c : Comparison ε} {files : List Diff.FileDiff}
    {new : Sources} {old : Option Sources} (hread : Diff.read c.text = .ok files)
    (h : c.ReadsFrom new old) :
    (sources machine c).result = .ok (files, .ofList (new.among (newPaths files)),
      old.map fun sources => .ofList (sources.among (oldPaths files))) := by
  have hnew := gather_result h.new (newPaths files)
  have hold := h.old
  rw [sources, hread, ofExcept_ok]
  simp only [result_bind, result_pure, Except.bind, hnew]
  cases hfetch : c.fetchOld with
  | none =>
      rw [hfetch] at hold
      cases hold
      rfl
  | some fetch =>
      rw [hfetch] at hold
      cases hold with
      | some hsources =>
          simp only [result_bind, result_map, gather_result hsources, Except.map, Except.bind]
          rfl

/-- An analysis of the sources that are fetched is one of all sources that can be read, without
    old sources under paths of files that are not Rust files. If no file comes from such a path,
    it is one of all sources. -/
theorem analyze_fetched (machine : Machine ε) {c : Comparison ε}
    {files : List Diff.FileDiff} {new : Sources} {old : Option Sources}
    (hread : Diff.read c.text = .ok files)
    (h : c.ReadsFrom new old) :
    ∃ got gotOld, (sources machine c).result = .ok (files, got, gotOld) ∧
      (∀ s : Setup, Analysis.analyze (s.reading got gotOld) c.text
        = Analysis.analyze (s.reading new (old.map Sources.rustOnly)) c.text) ∧
      ((∀ f ∈ files, f.isBinary = false → isRustPath f.path = true →
          ∀ path, f.oldPath = some path → isRustPath path = true) →
        ∀ s : Setup, Analysis.analyze (s.reading got gotOld) c.text
          = Analysis.analyze (s.reading new old) c.text) := by
  have hsame : ∀ s : Setup, _ := fun s =>
    analyze_congr s hread (gathered_agree hread new old)
  refine ⟨_, _, sources_result machine hread h, hsame, fun hrust s => ?_⟩
  refine (hsame s).trans (analyze_congr s hread fun f hf => ⟨fun _ _ => rfl, ?_⟩)
  intro hbinary hpath path hold
  cases old with
  | none => rfl
  | some sources => exact if_pos (hrust f hf hbinary hpath path hold)

/-- A diff of a file that becomes a Rust file and loses a function. -/
def renamedText : String :=
  "diff --git a/a.txt b/a.rs
similarity index 50%
rename from a.txt
rename to a.rs
--- a/a.txt
+++ b/a.rs
@@ -1,2 +1,1 @@
 // a
-fn b() \x7b\x7d
"

/-- The file of `renamedText`. -/
def renamedFile : Diff.FileDiff :=
  { oldPath := some "a.txt"
    newPath := some "a.rs"
    status := .renamed
    isRename := true
    hunks :=
      [{ oldStart := 1, oldCount := 2, newStart := 1, newCount := 1
         lines :=
           [⟨.context, "// a", some 1, some 1⟩,
            ⟨.removed, "fn b() \x7b\x7d", some 2, none⟩] }] }

/-- The new source of the file of `renamedText`. -/
def renamedNew : Sources := fun _ => some "// a\n"

/-- Its old source. -/
def renamedOld : Sources := fun _ => some "// a\nfn b() \x7b\x7d\n"

/-- A machine with nothing on it. -/
def emptyMachine : Machine where
  root := "/"
  files := fun _ => .missing
  environment := fun _ => none
  git := fun _ => .notInstalled
  input := []

/-- The comparison that `renamedText` is the diff of. -/
def renamedComparison : Comparison :=
  { text := renamedText
    fetchNew := fun path => pure (renamedNew path)
    fetchOld := some fun path => pure (renamedOld path) }

private theorem read_renamedText : Diff.read renamedText = .ok [renamedFile] := by decide +kernel

private theorem renamedComparison_readsFrom :
    renamedComparison.ReadsFrom renamedNew (some renamedOld) :=
  ⟨fun _ => rfl, .some fun _ => rfl⟩

/-- A file renamed to one that counts: its old source is not among the ones fetched. -/
theorem analyze_fetched_of_renamedText :
    Diff.read renamedText = .ok [renamedFile] ∧
      renamedComparison.ReadsFrom renamedNew (some renamedOld) ∧
      ∃ got gotOld, (sources emptyMachine renamedComparison).result
          = .ok ([renamedFile], got, gotOld) ∧
        ∀ s : Setup, Analysis.analyze (s.reading got gotOld) renamedComparison.text
          = Analysis.analyze (s.reading renamedNew ((some renamedOld).map Sources.rustOnly))
              renamedComparison.text := by
  obtain ⟨got, gotOld, hsources, hsame, -⟩ :=
    analyze_fetched emptyMachine (c := renamedComparison) read_renamedText
      renamedComparison_readsFrom
  exact ⟨read_renamedText, renamedComparison_readsFrom, got, gotOld, hsources, hsame⟩

/-- The names of the units that an analysis finds changed. -/
def changedNames (value : Except (Failure Empty) Result) : Option (List String) :=
  value.toOption.map fun r => r.changes.map (·.unit.name)

/-- The old source of a file that was no Rust file is not fetched, although the analysis asks for
    it. -/
theorem exists_fetched_not_enough :
    ¬∀ (machine : Machine) (c : Comparison) (files : List Diff.FileDiff) (new : Sources)
      (old : Option Sources) (got : Sources) (gotOld : Option Sources),
      Diff.read c.text = .ok files → c.ReadsFrom new old →
      (sources machine c).result = .ok (files, got, gotOld) →
      ∀ s : Setup, (Analysis.analyze (s.reading got gotOld) c.text).value
        = (Analysis.analyze (s.reading new old) c.text).value := by
  intro h
  have hvalue := h emptyMachine renamedComparison _ _ _ _ _ read_renamedText
    renamedComparison_readsFrom
    (sources_result emptyMachine (c := renamedComparison) read_renamedText
      renamedComparison_readsFrom)
    { rules := {}, sources := renamedNew, oldSources := none, isStrict := false }
  -- the removed function is only known from the old source
  have hnames := congrArg changedNames hvalue
  revert hnames
  decide +kernel

end DiffGauge.Command
