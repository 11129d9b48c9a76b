import DiffGauge.Analysis.Gather
import DiffGauge.Proofs.Diff.Numbering

/-!
# What an analysis looks up

An analysis asks for the new source of a file under the path that the file is listed under, and
for the old one under its old path, whatever that is called. Of the sources of a diff only the new
ones of Rust files and the old ones under paths of Rust files are gathered.

* `analyze_congr` says that nothing but the sources that are looked up matters;
* `gathered_agree` compares the sources that are gathered with all that can be had.
-/

namespace DiffGauge.Diff

/-! ## New files -/

/-- A new file has no old path. -/
theorem read_new_oldPath {text : String} {files : List FileDiff} (h : read text = .ok files) :
    ∀ f ∈ files, f.status = .added → f.oldPath = none := by
  have hof : ∀ {isNew isDeleted isRename onlyMode : Bool},
      FileStatus.of isNew isDeleted isRename onlyMode = .added → isNew = true := by
    decide
  have hsides : ∀ {header : Nat} {isRename : Bool} {lineNo : Nat} {lines : List Line}
      {s : Section}, readSides header isRename lineNo lines = .ok s →
      s.file.status = .added → s.file.oldPath = none := by
    intro header isRename lineNo lines s hs hadded
    unfold readSides at hs
    repeat' split at hs
    all_goals cases hs
    exact Option.isNone_iff_eq_none.1 (hof hadded)
  refine forall_readSections ?_ (fun _ _ _ hs => hsides hs) h
  intro header lineNo lines s hs hadded
  have hpreface : ∀ p : Preface, p.fileDiff.status = .added → p.fileDiff.oldPath = none :=
    fun p hp => if_pos (hof hp)
  unfold readSection at hs
  split at hs
  · cases hs
  simp only at hs
  split at hs
  · cases hs
    exact hpreface _ hadded
  split at hs
  · exact hsides hs hadded
  split at hs
  · cases hs
    exact hpreface _ hadded
  · cases hs

end DiffGauge.Diff

namespace DiffGauge.Analysis

open Diff Syntax

/-! ## What is looked up -/

variable {ε : Type}

/-- The run with other sources. -/
def Setup.reading (s : Setup ε) (new : Sources) (old : Option Sources) : Setup ε :=
  { s with sources := new, oldSources := old }

/-- The sources are the same where they are looked up for a file. No old sources are as good as
    none at a path. -/
structure AgreeFor (f : FileDiff) (new new' : Sources) (old old' : Option Sources) : Prop where
  new : ∀ path, newPath? f = some path → new path = new' path
  old : f.isBinary = false → isRustPath f.path = true →
    ∀ path, f.oldPath = some path → old.bind (· path) = old'.bind (· path)

private theorem skipReason?_eq_none {path : String} {isBinary : Bool} {ignored : Names}
    (h : skipReason? path isBinary ignored = none) :
    isBinary = false ∧ isRustPath path = true := by
  rw [skipReason?] at h
  repeat' split at h
  all_goals cases h
  exact ⟨by simpa using ‹¬isBinary = true›, by simpa [isRustPath] using ‹¬(!_) = true›⟩

private theorem oldUnits_congr (s : Setup ε) {f : FileDiff} {new new' : Sources}
    {old old' : Option Sources}
    (h : ∀ path, f.oldPath = some path → old.bind (· path) = old'.bind (· path)) :
    oldUnits (s.reading new old) f = oldUnits (s.reading new' old') f := by
  unfold oldUnits Setup.reading
  cases hpath : f.oldPath with
  | none => cases old <;> cases old' <;> rfl
  | some path =>
      have hsame := h path hpath
      cases old with
      | none =>
          cases old' with
          | none => rfl
          | some sources' =>
              have hnone : sources' path = none := hsame.symm
              simp only [hnone]
      | some sources =>
          cases old' with
          | none =>
              have hnone : sources path = none := hsame
              simp only [hnone]
          | some sources' =>
              have hboth : sources path = sources' path := hsame
              simp only [hboth]

/-- What is found out about a file depends on no other source than those that are looked up. -/
theorem analyzeFile_congr (s : Setup ε) {f : FileDiff} {new new' : Sources}
    {old old' : Option Sources} (h : AgreeFor f new new' old old') :
    analyzeFile (s.reading new old) f = analyzeFile (s.reading new' old') f := by
  have hchoosing : ∀ a b, (s.reading a b).choosingObstacle? f = s.choosingObstacle? f :=
    fun _ _ => rfl
  have hskips : ∀ a b, skipReason? f.path f.isBinary (s.reading a b).rules.ignorePaths
      = skipReason? f.path f.isBinary s.rules.ignorePaths := fun _ _ => rfl
  unfold analyzeFile
  rw [hchoosing, hchoosing, hskips, hskips]
  cases s.choosingObstacle? f with
  | some obstacle => rfl
  | none =>
  cases hskip : skipReason? f.path f.isBinary s.rules.ignorePaths with
  | some reason => rfl
  | none =>
      obtain ⟨hbinary, hrust⟩ := skipReason?_eq_none hskip
      have hattribute : ∀ units, attributeFile (s.reading new old) f units
          = attributeFile (s.reading new' old') f units := by
        intro units
        have holds : oldUnits (s.reading new old) f = oldUnits (s.reading new' old') f :=
          oldUnits_congr s (h.old hbinary hrust)
        unfold attributeFile
        rw [holds]
        rfl
      simp only
      unfold analyzeChosen
      split
      · exact hattribute []
      · next hdeleted =>
          have hnew :
              (s.reading new old).sources f.path = (s.reading new' old').sources f.path := by
            refine h.new f.path ?_
            rw [newPath?, hbinary, hrust]
            simp [hdeleted]
          rw [hnew]
          simp only [hattribute]
          rfl

private theorem analyzeFiles_congr (s : Setup ε) {files : List FileDiff} {new new' : Sources}
    {old old' : Option Sources} (h : ∀ f ∈ files, AgreeFor f new new' old old') :
    analyzeFiles (s.reading new old) files = analyzeFiles (s.reading new' old') files := by
  induction files with
  | nil => rfl
  | cons f fs ih =>
      obtain ⟨hf, hfs⟩ := List.forall_mem_cons.1 h
      rw [analyzeFiles, analyzeFiles, analyzeFile_congr s hf, ih hfs]

/-- An analysis depends on no other source than those that are looked up. -/
theorem analyze_congr (s : Setup ε) {text : String} {files : List FileDiff} {new new' : Sources}
    {old old' : Option Sources} (hread : read text = .ok files)
    (h : ∀ f ∈ files, AgreeFor f new new' old old') :
    analyze (s.reading new old) text = analyze (s.reading new' old') text := by
  rw [analyze, analyze, hread]
  simp only [analyzeFiles_congr s h]

/-! ## What is gathered -/

/-- The sources of some paths, of those that have one. -/
def Sources.among (sources : Sources) (paths : List String) : List (String × String) :=
  paths.filterMap fun path => (sources path).map (path, ·)

private theorem ofList_among (sources : Sources) (paths : List String) (path : String) :
    Sources.ofList (sources.among paths) path = if path ∈ paths then sources path else none := by
  rw [Sources.ofList]
  induction paths with
  | nil => rfl
  | cons p paths ih =>
      rw [Sources.among, List.filterMap_cons]
      by_cases hp : path = p
      · subst hp
        rw [if_pos List.mem_cons_self]
        cases hsource : sources path with
        | none =>
            rw [hsource, ite_self] at ih
            exact ih
        | some text => exact List.lookup_cons_self
      · have hmem : path ∈ p :: paths ↔ path ∈ paths := by simp [hp]
        simp only [hmem, ← ih]
        cases sources p with
        | none => rfl
        | some text =>
            show List.lookup path ((p, text) :: sources.among paths) = _
            rw [List.lookup_cons, beq_eq_false_iff_ne.2 hp]

/-- The sources under the paths of Rust files. -/
def Sources.rustOnly (sources : Sources) : Sources :=
  fun path => if isRustPath path then sources path else none

/-- An old path is gathered exactly if it is that of a Rust file. -/
theorem mem_oldPaths_iff {files : List FileDiff} {f : FileDiff} {path : String} (hf : f ∈ files)
    (hadded : f.status = .added → f.oldPath = none) (hbinary : f.isBinary = false)
    (hpath : f.oldPath = some path) : path ∈ oldPaths files ↔ isRustPath path = true := by
  have hold : f.status ≠ .added := fun h => by
    rw [hadded h] at hpath
    cases hpath
  constructor
  · intro h
    obtain ⟨g, -, hg⟩ := List.mem_filterMap.1 h
    rw [oldPath?] at hg
    split at hg
    · cases hg
    · exact (Option.filter_eq_some_iff.1 hg).2
  · intro h
    refine List.mem_filterMap.2 ⟨f, hf, ?_⟩
    rw [oldPath?, hbinary, hpath]
    simp [hold, h]

/-- The sources that are gathered are, where they are looked up, the new ones and those of the
    old ones that are under paths of Rust files. -/
theorem gathered_agree {text : String} {files : List FileDiff} (hread : read text = .ok files)
    (new : Sources) (old : Option Sources) :
    ∀ f ∈ files, AgreeFor f (.ofList (new.among (newPaths files))) new
      (old.map fun sources => .ofList (sources.among (oldPaths files)))
      (old.map Sources.rustOnly) := by
  intro f hf
  constructor
  · intro path hpath
    have hmem : path ∈ newPaths files := List.mem_filterMap.2 ⟨f, hf, hpath⟩
    rw [ofList_among, if_pos hmem]
  · intro hbinary _ path hpath
    cases old with
    | none => rfl
    | some sources =>
        have hmem := mem_oldPaths_iff hf (read_new_oldPath hread f hf) hbinary hpath
        show Sources.ofList (sources.among (oldPaths files)) path = sources.rustOnly path
        simp only [ofList_among, Sources.rustOnly, hmem]

end DiffGauge.Analysis
