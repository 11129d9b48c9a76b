import DiffGauge.Diff.Reader
import DiffGauge.Proofs.Diff.Sides

/-!
# The numbers of the lines that are read

The lines of a hunk are numbered as they are read, from the place that its header states. So the
hunks of a diff are consecutive, short or overlong ones not excepted, and all lines have their
numbers.

* `readBody_numbered` follows the body of one hunk, `readHunks_consecutive` the hunks of a
  section;
* `forall_readSections` takes what holds of every section to the whole diff;
* `read_consecutive` and `read_numbered` are the two statements about a diff, and
  `read_hunks_of_binary` says that binary files have no hunks.
-/

namespace DiffGauge.Diff

/-! ## One hunk -/

/-- A line at a place is numbered from there, and the lines after it from the next place. -/
theorem numberedFrom_line {p : Place} {kind : LineKind} (content : List Char)
    {ls : List HunkLine} (h : NumberedFrom (p.after kind).oldNo (p.after kind).newNo ls) :
    NumberedFrom p.oldNo p.newNo (p.line kind content :: ls) := by
  cases kind with
  | context => exact ⟨⟨rfl, h.oldNumbers⟩, ⟨rfl, h.newNumbers⟩⟩
  | added => exact ⟨h.oldNumbers, ⟨rfl, h.newNumbers⟩⟩
  | removed => exact ⟨⟨rfl, h.oldNumbers⟩, h.newNumbers⟩

private theorem numberedFrom_nil (old new : Int) : NumberedFrom old new [] := ⟨trivial, trivial⟩

private theorem readExcess_numbered
    {header : Nat} {place : Place} {lineNo : Nat} {lines : List Line}
    {b : Body} (h : readExcess header place lineNo lines = .ok b) :
    NumberedFrom place.oldNo place.newNo b.lines := by
  induction lines generalizing place lineNo b with
  | nil =>
      cases h
      exact numberedFrom_nil _ _
  | cons line lines ih =>
      rw [readExcess] at h
      split at h
      · exact ih h
      · split at h
        · obtain ⟨b', h', rfl⟩ := map_eq_ok h
          exact numberedFrom_line _ (ih h')
        · obtain ⟨-, rfl⟩ := unmarked_eq_ok h
          exact numberedFrom_nil _ _

/-- The lines of a body are numbered from the place that it begins at. -/
theorem readBody_numbered {header : Nat} {place : Place} {owed : Owed} {lineNo : Nat}
    {lines : List Line} {b : Body} (h : readBody header place owed lineNo lines = .ok b) :
    NumberedFrom place.oldNo place.newNo b.lines := by
  induction lines generalizing place owed lineNo b with
  | nil =>
      cases h
      exact numberedFrom_nil _ _
  | cons line lines ih =>
      rw [readBody] at h
      split at h
      -- a mark of a missing line break takes no number
      · exact ih h
      split at h
      · split at h
        · obtain ⟨b', h', rfl⟩ := map_eq_ok h
          exact numberedFrom_line _ (ih h')
        · obtain ⟨-, rfl⟩ := unmarked_eq_ok h
          exact numberedFrom_nil _ _
      split at h
      -- lines past the stated counts go on where the counted ones end
      · exact readExcess_numbered h
      · cases h
        exact numberedFrom_nil _ _

/-! ## The hunks of a section -/

/-- The lines of a hunk that is read are numbered one after the other. -/
theorem readHunks_consecutive {lineNo : Nat} {lines : List Line} {hs : Hunks}
    (h : readHunks lineNo lines = .ok hs) : ∀ k ∈ hs.hunks, k.IsConsecutive := by
  fun_induction readHunks lineNo lines generalizing hs with
  | case1 =>
      cases h
      exact List.forall_mem_nil _
  | case2 => cases h
  | case3 => cases h
  | case4 lineNo line below _ hh _ body hb _ ih =>
      obtain ⟨more, hmore, rfl⟩ := map_eq_ok h
      intro k hk
      rcases List.mem_cons.1 hk with rfl | hk
      · exact readBody_numbered hb
      · exact ih hmore k hk
  | case5 lineNo line below _ _ ih => exact ih h
  | case6 =>
      cases h
      exact List.forall_mem_nil _
  | case7 => cases h
  | case8 =>
      cases h
      exact List.forall_mem_nil _

/-- The hunks of a section are read after its path lines. -/
theorem readSides_hunks {header : Nat} {isRename : Bool} {lineNo : Nat} {lines : List Line}
    {s : Section} (h : readSides header isRename lineNo lines = .ok s) :
    ∃ old new below, lines = old :: new :: below ∧
      readHunks (lineNo + 2) below = .ok ⟨s.file.hunks, s.rest⟩ := by
  unfold readSides at h
  split at h
  · cases h
  · next oldPath newPath below hpaths =>
      obtain ⟨old, new, rfl, -, -⟩ := readPaths_eq_ok hpaths
      split at h
      · cases h
      · cases h
      · next k ks rest hs =>
          cases h
          exact ⟨old, new, below, rfl, hs⟩

/-- A section that a line of its own opens has no hunks, or reads them after its path lines. -/
theorem readSection_hunks {header : Line} {lineNo : Nat} {lines : List Line} {s : Section}
    (h : readSection header lineNo lines = .ok s) :
    s.file.hunks = [] ∨
      ∃ front below no, lines = front ++ below ∧
        readHunks no below = .ok ⟨s.file.hunks, s.rest⟩ := by
  unfold readSection at h
  split at h
  · cases h
  · next oldPath newPath _ =>
      have hpreface := readPreface_endOf { oldPath, newPath } (lineNo + 1) lines
      generalize readPreface { oldPath, newPath } (lineNo + 1) lines = pr at h hpreface
      obtain ⟨p, rest⟩ := pr
      simp only at h hpreface
      split at h
      · cases h
        exact .inl rfl
      split at h
      · obtain ⟨extended, rfl, -⟩ := hpreface
        obtain ⟨old, new, below, hrest, hs⟩ := readSides_hunks h
        exact .inr ⟨extended ++ [old, new], below, _, by rw [hrest]; simp, hs⟩
      split at h
      · cases h
        exact .inl rfl
      · cases h

/-- Path lines are not read of a binary file. -/
theorem readSides_isBinary {header : Nat} {isRename : Bool} {lineNo : Nat} {lines : List Line}
    {s : Section} (h : readSides header isRename lineNo lines = .ok s) :
    s.file.isBinary = false := by
  unfold readSides at h
  split at h
  · cases h
  · split at h
    · cases h
    · cases h
    · cases h
      rfl

/-- The section of a binary file has no hunks. -/
theorem readSection_hunks_of_binary {header : Line} {lineNo : Nat} {lines : List Line}
    {s : Section} (h : readSection header lineNo lines = .ok s) (hb : s.file.isBinary = true) :
    s.file.hunks = [] := by
  unfold readSection at h
  split at h
  · cases h
  · simp only at h
    split at h
    · cases h
      rfl
    split at h
    · rw [readSides_isBinary h] at hb
      cases hb
    split at h
    · cases h
      rfl
    · cases h

/-! ## The whole diff -/

/-- What holds of every section, opened by a line of its own or by path lines alone, holds of
    every file of the diff. -/
theorem forall_readSections {P : FileDiff → Prop}
    (hsection : ∀ header lineNo lines s, readSection header lineNo lines = .ok s → P s.file)
    (hsides : ∀ lineNo lines s, readSides lineNo false lineNo lines = .ok s → P s.file)
    {lineNo : Nat} {lines : List Line} {files : List FileDiff}
    (h : readSections lineNo lines = .ok files) : ∀ f ∈ files, P f := by
  fun_induction readSections lineNo lines generalizing files with
  | case1 =>
      cases h
      exact List.forall_mem_nil _
  | case2 => cases h
  | case3 lineNo line below _ s hs _ ih =>
      obtain ⟨more, hmore, rfl⟩ := map_eq_ok h
      intro f hf
      rcases List.mem_cons.1 hf with rfl | hf
      · exact hsection _ _ _ _ hs
      · exact ih hmore f hf
  | case4 => cases h
  | case5 lineNo line below _ _ s hs _ ih =>
      obtain ⟨more, hmore, rfl⟩ := map_eq_ok h
      intro f hf
      rcases List.mem_cons.1 hf with rfl | hf
      · exact hsides _ _ _ hs
      · exact ih hmore f hf
  | case6 => cases h
  | case7 lineNo line below _ _ _ ih => exact ih h

/-- All hunks of a diff are consecutive. -/
theorem read_consecutive {text : String} {files : List FileDiff} (h : read text = .ok files) :
    ∀ f ∈ files, ∀ k ∈ f.hunks, k.IsConsecutive := by
  refine forall_readSections ?_ ?_ h
  · intro header lineNo lines s hs k hk
    rcases readSection_hunks hs with hnone | ⟨front, below, no, -, hsome⟩
    · rw [hnone] at hk
      cases hk
    · exact readHunks_consecutive hsome k hk
  · intro lineNo lines s hs
    obtain ⟨old, new, below, -, hsome⟩ := readSides_hunks hs
    exact readHunks_consecutive hsome

/-- All lines of a diff have their numbers. -/
theorem read_numbered {text : String} {files : List FileDiff} (h : read text = .ok files) :
    ∀ f ∈ files, f.IsNumbered :=
  fun f hf k hk => (read_consecutive h f hf k hk).isNumbered

/-- The binary files of a diff have no hunks. -/
theorem read_hunks_of_binary {text : String} {files : List FileDiff} (h : read text = .ok files) :
    ∀ f ∈ files, f.isBinary = true → f.hunks = [] := by
  refine forall_readSections ?_ ?_ h
  · intro header lineNo lines s hs
    exact readSection_hunks_of_binary hs
  · intro lineNo lines s hs hb
    rw [readSides_isBinary hs] at hb
    cases hb

end DiffGauge.Diff
