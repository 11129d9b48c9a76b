import DiffGauge.Proofs.Diff.Headers
import DiffGauge.Proofs.Diff.Lines
import Mathlib

/-!
# Printed diffs are read back

Reading a printed diff gives the files that were printed. A body is read by counting down what
its header states, so its lines may look like anything; it ends where the count does, because
what follows it is never a body to the end of the text.

* `readBody_printed` reads the body of one hunk and `readHunks_printed` the hunks of a section;
* `readSides_printed` and `readSection_printed` read a section of either form;
* `readSections_printed` reads all of them, one after the other.
-/

namespace DiffGauge.Diff

open Text PathQuoting

/-! ## The body of a hunk -/

/-- A body ends at these lines: there are none, or the first is no mark of a missing line break
    and some line is no body line. -/
def StopsBody (rest : List Line) : Prop :=
  ∀ line below, rest = line :: below →
    isNoNewlineMark line = false ∧ rest.all isBodyLine = false

private theorem isNoNewlineMark_line (b : BodyText) : isNoNewlineMark b.line = false := by
  obtain ⟨kind, content, _, _⟩ := b
  cases kind with
  | context => rfl
  | added => rfl
  | removed => rfl

private theorem marked?_line (b : BodyText) : marked? b.line = some (b.kind, b.content) := by
  obtain ⟨kind, content, _, _⟩ := b
  cases kind with
  | context => rfl
  | added => rfl
  | removed => rfl

/-- What is owed for a body: its lines on each side. -/
def owedFor (body : List BodyText) : Owed :=
  ⟨body.countP (·.kind.onOld), body.countP (·.kind.onNew)⟩

/-- Every line is owed on one side at least, and after it one line less. -/
theorem owedFor_cons (b : BodyText) (body : List BodyText) :
    (owedFor (b :: body)).some = true ∧ (owedFor (b :: body)).after b.kind = owedFor body := by
  simp only [owedFor, List.countP_cons]
  cases b.kind with
  | context => simp [Owed.some, Owed.after, LineKind.onOld, LineKind.onNew]
  | added => simp [Owed.some, Owed.after, LineKind.onOld, LineKind.onNew]
  | removed => simp [Owed.some, Owed.after, LineKind.onOld, LineKind.onNew]

/-- The lines of a body from a place are numbered from there. -/
theorem numbered_cons (place : Place) (b : BodyText) (body : List BodyText) :
    numbered place.oldNo place.newNo (b :: body)
      = place.line b.kind b.content
        :: numbered (place.after b.kind).oldNo (place.after b.kind).newNo body := by
  obtain ⟨kind, content, _, _⟩ := b
  cases kind with
  | context => rfl
  | added => rfl
  | removed => rfl

/-- A body is read as long as its lines are owed, and no further. -/
theorem readBody_printed (header : Nat) (place : Place) (n : Nat) (body : List BodyText)
    {rest : List Line} (hstop : StopsBody rest) :
    readBody header place (owedFor body) n (body.map BodyText.line ++ rest)
      = .ok ⟨numbered place.oldNo place.newNo body, ⟨n + body.length, rest⟩⟩ := by
  induction body generalizing place n with
  | nil =>
      cases rest with
      | nil => rfl
      | cons line below =>
          -- nothing is owed any more, and the rest is no body to its end
          obtain ⟨hmark, hall⟩ := hstop line below rfl
          show readBody header place ⟨0, 0⟩ n (line :: below) = _
          rw [readBody, hmark, hall]
          rfl
  | cons b body ih =>
      obtain ⟨howed, hafter⟩ := owedFor_cons b body
      rw [List.map_cons, List.cons_append, readBody, isNoNewlineMark_line, howed]
      have hne : b.line.isEmpty = false := rfl
      simp only [hne, Bool.false_and, Bool.false_eq_true, if_false, if_true, marked?_line, hafter,
        ih, numbered_cons, List.length_cons]
      rw [Nat.add_assoc, Nat.add_comm 1]
      rfl

/-! ## The hunks of a section -/

/-- Hunks end at these lines: there are none, or the first opens no hunk and is read as the
    beginning of a section, and some line is no body line. -/
def StopsHunks (rest : List Line) : Prop :=
  ∀ line below, rest = line :: below →
    rest.all isBodyLine = false ∧ isNoNewlineMark line = false ∧ opensHunk line = false ∧
      (marked? line = none ∨ atPathLines rest = true)

private theorem StopsHunks.stopsBody {rest : List Line} (h : StopsHunks rest) : StopsBody rest := by
  intro line below e
  obtain ⟨hall, hmark, -, -⟩ := h line below e
  exact ⟨hmark, hall⟩

/-- A hunk header ends the body before it. -/
theorem stopsBody_lines (h : HunkText) (rest : List Line) : StopsBody (h.lines ++ rest) := by
  rintro line below ⟨⟩
  exact ⟨rfl, rfl⟩

/-- The hunks of a section are read up to its end. -/
theorem readHunks_printed (n : Nat) (hunks : List HunkText) {rest : List Line}
    (hstop : StopsHunks rest) :
    ∃ m, readHunks n (hunks.flatMap HunkText.lines ++ rest)
      = .ok ⟨hunks.map HunkText.hunk, ⟨m, rest⟩⟩ := by
  induction hunks generalizing n with
  | nil =>
      refine ⟨n, ?_⟩
      cases rest with
      | nil =>
          show readHunks n [] = _
          rw [readHunks]
          rfl
      | cons line below =>
          obtain ⟨-, hmark, hopens, hfirst⟩ := hstop line below rfl
          -- a path line may look like one more line of the body
          have hexcess : ((marked? line).isSome && !atPathLines (line :: below)) = false := by
            rcases hfirst with hnone | hpaths
            · rw [hnone]
              rfl
            · rw [hpaths, Bool.not_true, Bool.and_false]
          show readHunks n (line :: below) = _
          rw [readHunks, hopens, hmark, hexcess]
          simp only [Bool.false_eq_true, if_false, ite_self]
          rfl
  | cons h hunks ih =>
      -- the body of `h` ends at the next header or at the end of the section
      have hbody : StopsBody (hunks.flatMap HunkText.lines ++ rest) := by
        cases hunks with
        | nil => exact hstop.stopsBody
        | cons h' hunks =>
            rw [List.flatMap_cons, List.append_assoc]
            exact stopsBody_lines h' _
      have hread := readBody_printed n ⟨h.oldStart, h.newStart⟩ (n + 1) h.body hbody
      obtain ⟨m, hm⟩ := ih (n + 1 + h.body.length)
      refine ⟨m, ?_⟩
      have hopens : opensHunk h.header = true := rfl
      rw [List.flatMap_cons, List.append_assoc, HunkText.lines, List.cons_append,
        readHunks_headed hopens (read_header h n) hread, hm]
      rfl

/-! ## Sections -/

private theorem readPaths_printed
    (n : Nat) (oldPath newPath : Option PathText) (below : List Line) :
    readPaths n (pathLine "--- " "a/" oldPath :: pathLine "+++ " "b/" newPath :: below)
      = .ok (oldPath.map fun p => String.ofList p.chars,
          newPath.map fun p => String.ofList p.chars, below) := by
  have hold : hasLead oldPathLead (pathLine "--- " "a/" oldPath) = true := hasLead_append _ _
  have hnew : hasLead newPathLead (pathLine "+++ " "b/" newPath) = true := hasLead_append _ _
  rw [readPaths, if_pos hold, if_pos hnew, pathOf_pathLine rfl (.inl rfl),
    pathOf_pathLine rfl (.inr rfl)]
  rfl

/-- Extended headers are read up to a line that is none. -/
theorem readPreface_append (p : Preface) (n : Nat) {headers rest : List Line}
    {sayings : List ExtendedHeader}
    (hheaders : headers.map ExtendedHeader.read? = sayings.map some)
    (hrest : ∀ line ∈ rest.head?, ExtendedHeader.read? line = none) :
    readPreface p n (headers ++ rest)
      = (sayings.foldl Preface.adding p, ⟨n + headers.length, rest⟩) := by
  induction headers generalizing p n sayings with
  | nil =>
      obtain rfl : sayings = [] := List.map_eq_nil_iff.1 hheaders.symm
      cases rest with
      | nil => rfl
      | cons line below =>
          rw [List.nil_append, readPreface, hrest line rfl]
          rfl
  | cons line headers ih =>
      cases sayings with
      | nil => cases hheaders
      | cons x sayings =>
          obtain ⟨hline, hmore⟩ := List.cons.inj hheaders
          rw [List.cons_append, readPreface, hline]
          simp only
          rw [ih (p.adding x) (n + 1) hmore, List.length_cons, List.foldl_cons, Nat.add_assoc,
            Nat.add_comm 1]

/-- The headers of an opening say whether the file is renamed, and never that it is binary. -/
theorem foldl_sayings (o : OpeningText) (p : Preface) :
    (o.sayings.foldl Preface.adding p).isBinary = p.isBinary ∧
      (o.sayings.foldl Preface.adding p).isRename = (p.isRename || o.rename.isSome) := by
  rw [OpeningText.sayings]
  cases o.newMode <;> cases o.deletedMode <;> cases o.rename <;> simp [Preface.adding]

private theorem status_eq (s : SectionText) :
    FileStatus.of s.oldPath.isNone s.newPath.isNone s.isRename false = s.status := by
  rw [SectionText.status]
  cases s.newPath with
  | none => rfl
  | some q =>
      cases s.oldPath with
      | none => rfl
      | some p => cases s.isRename <;> rfl

/-- The path lines and the hunks of a section are read up to its end. -/
theorem readSides_printed (header n : Nat) (s : SectionText) {rest : List Line}
    (hstop : StopsHunks rest) :
    ∃ m, readSides header s.isRename n (s.sides ++ rest) = .ok ⟨s.file, ⟨m, rest⟩⟩ := by
  obtain ⟨m, hm⟩ := readHunks_printed (n + 2) (s.first :: s.more) hstop
  refine ⟨m, ?_⟩
  rw [SectionText.sides, List.cons_append, List.cons_append, readSides, readPaths_printed]
  simp only [hm, List.map_cons, Option.isNone_map, status_eq]
  rfl

/-- A section ends the hunks before it. -/
theorem stopsHunks_sections (sections : List SectionText) :
    StopsHunks (sections.flatMap SectionText.lines) := by
  cases sections with
  | nil =>
      intro line below e
      cases e
  | cons s sections =>
      obtain ⟨opening, oldPath, newPath, first, more⟩ := s
      cases opening with
      | some o =>
          rintro line below ⟨⟩
          exact ⟨rfl, rfl, rfl, .inl rfl⟩
      | none =>
          rintro line below ⟨⟩
          -- the path lines may pass for a body, the hunk header after them does not
          have hheader : isBodyLine first.header = false := rfl
          refine ⟨?_, rfl, rfl, .inr rfl⟩
          show (isBodyLine _ && (isBodyLine _ && (isBodyLine first.header && _))) = false
          rw [hheader, Bool.false_and, Bool.and_false, Bool.and_false]

/-- A section with an opening line is read up to its end. -/
theorem readSection_printed (n : Nat) {s : SectionText} {o : OpeningText}
    (hopening : s.opening = some o) {rest : List Line} (hstop : StopsHunks rest) :
    ∃ m, readSection o.line n (o.headers ++ (s.sides ++ rest)) = .ok ⟨s.file, ⟨m, rest⟩⟩ := by
  -- which paths the opening line names does not matter: the path lines overrule it
  obtain ⟨⟨oldPath, newPath⟩, hpaths⟩ := Option.isSome_iff_exists.1 (headerPaths?_line o)
  have hside : ∀ line ∈ (s.sides ++ rest).head?, ExtendedHeader.read? line = none := by
    rintro line ⟨⟩
    cases s.oldPath <;> rfl
  have hpreface := readPreface_append { oldPath, newPath } (n + 1) (read?_headers o) hside
  obtain ⟨hbinary, hrename⟩ := foldl_sayings o { oldPath, newPath }
  have hsame : o.rename.isSome = s.isRename := by
    rw [SectionText.isRename, hopening]
    rfl
  have hat : atOldPath (s.sides ++ rest) = true := rfl
  obtain ⟨m, hm⟩ := readSides_printed n (n + 1 + o.headers.length) s hstop
  refine ⟨m, ?_⟩
  rw [readSection, hpaths]
  simp only [hpreface, hbinary, hrename, Bool.false_or, hsame, Bool.false_eq_true, if_false, hat,
    if_true, hm]

/-! ## The whole diff -/

/-- Sections are read one after the other. -/
theorem readSections_printed (n : Nat) (sections : List SectionText) :
    readSections n (sections.flatMap SectionText.lines)
      = .ok (sections.map SectionText.file) := by
  induction sections generalizing n with
  | nil =>
      show readSections n [] = _
      rw [readSections]
      rfl
  | cons s sections ih =>
      have hstop := stopsHunks_sections sections
      rw [List.flatMap_cons, SectionText.lines]
      cases hopening : s.opening with
      | some o =>
          obtain ⟨m, hm⟩ := readSection_printed n hopening hstop
          have hopens : opensSection o.line = true := rfl
          simp only [List.cons_append, List.append_assoc]
          rw [readSections_opened hopens hm, ih]
          rfl
      | none =>
          have hrename : s.isRename = false := by
            rw [SectionText.isRename, hopening]
            rfl
          obtain ⟨m, hm⟩ := readSides_printed n n s hstop
          rw [hrename] at hm
          simp only [SectionText.sides, List.cons_append] at hm ⊢
          have hopens : opensSection (pathLine "--- " "a/" s.oldPath) = false := rfl
          have hpaths (below : List Line) : atPathLines (pathLine "--- " "a/" s.oldPath
              :: pathLine "+++ " "b/" s.newPath :: below) = true := rfl
          rw [readSections_plain hopens (hpaths _) hm, ih]
          rfl

/-- A printed diff is read back: the files are those that its sections stand for. -/
theorem read_printed (sections : List SectionText) :
    read (printed sections) = .ok (sections.map SectionText.file) := by
  rw [read, linesOf_printed, readSections_printed]

end DiffGauge.Diff
