import DiffGauge.Proofs.Diff.Numbering
import DiffGauge.Proofs.Diff.Printed
import Mathlib

/-!
# Where the hunks of a diff stand

Every hunk that is read stands in the lines of the text: a line that opens a hunk, and right
after it a block that holds the lines of the hunk, one for one. The blocks follow one another in
the order of the hunks and share no line.

* `readBody_spells` finds the block of one hunk, whether the hunk ends where its counts do, ends
  early or takes in what is left of the text;
* `readHunks_laidOut` and `readSections_laidOut` put the blocks one after the other;
* `read_laidOut` is the statement about a diff.
-/

namespace DiffGauge.Diff

/-! ## Blocks and layouts -/

/-- A line of the text as a line of a hunk: the mark and the content, or nothing at all for an
    empty context line. A changed line has no number on the side that it is not on. -/
structure Writes (line : Line) (l : HunkLine) : Prop where
  text : line = l.kind.mark :: l.content.toList ∨ line = [] ∧ l.kind = .context ∧ l.content = ""
  oldNo : l.kind = .added → l.oldNo = none
  newNo : l.kind = .removed → l.newNo = none

/-- The block holds the lines one for one, marks of a missing line break apart. -/
def Spells (block : List Line) (lines : List HunkLine) : Prop :=
  List.Forall₂ Writes (block.filter fun line => !isNoNewlineMark line) lines

/-- The header states where the hunk begins, how many lines it has, and its heading. -/
def States (header : Line) (k : Hunk) : Prop :=
  ∃ n h, HunkHeader.read header n = .ok h ∧
    k = { oldStart := h.oldStart
          oldCount := h.oldCount
          newStart := h.newStart
          newCount := h.newCount
          heading := h.heading
          lines := k.lines }

/-- A header and the block after it are the text of a hunk. The lines of each side are numbered
    one after the other from the line that the header states. -/
structure IsTextOf (header : Line) (block : List Line) (k : Hunk) : Prop where
  opens : opensHunk header = true
  states : States header k
  spells : Spells block k.lines
  consecutive : k.IsConsecutive

/-- The hunks stand in the lines, one after the other: before each of them there may be other
    lines, then come its header and its block. -/
inductive LaidOut : List Line → List Hunk → Prop where
  | none (lines : List Line) : LaidOut lines []
  | hunk (before : List Line) {header : Line} {block after : List Line} {k : Hunk}
      {ks : List Hunk} : IsTextOf header block k → LaidOut after ks →
      LaidOut (before ++ header :: (block ++ after)) (k :: ks)

/-- Lines in front do not matter. -/
theorem LaidOut.behind (front : List Line) {lines : List Line} {ks : List Hunk}
    (h : LaidOut lines ks) : LaidOut (front ++ lines) ks := by
  cases h with
  | none => exact .none _
  | hunk before htext hafter =>
      rw [← List.append_assoc]
      exact .hunk (front ++ before) htext hafter

/-- What is laid out in two parts is laid out in the whole. -/
theorem LaidOut.append {xs ys : List Line} {hs ks : List Hunk} (hx : LaidOut xs hs)
    (hy : LaidOut ys ks) : LaidOut (xs ++ ys) (hs ++ ks) := by
  induction hx with
  | none lines => exact hy.behind lines
  | hunk before htext _ ih =>
      rw [List.append_assoc, List.cons_append, List.append_assoc]
      exact .hunk before htext ih

/-! ## One hunk -/

/-- A marked line is a mark and a content. -/
theorem marked?_eq_some_iff {line : Line} {kind : LineKind} {content : List Char} :
    marked? line = some (kind, content) ↔ line = kind.mark :: content := by
  constructor
  · intro h
    unfold marked? at h
    split at h
    all_goals cases h
    all_goals rfl
  · rintro rfl
    cases kind with
    | context => rfl
    | added => rfl
    | removed => rfl

/-- A line at a place has a number on its own side only. -/
theorem writes_line (place : Place) {line : Line} {kind : LineKind} {content : List Char}
    (h : line = kind.mark :: content ∨ line = [] ∧ kind = .context ∧ content = []) :
    Writes line (place.line kind content) := by
  refine ⟨?_, fun hadded => if_pos hadded, fun hremoved => if_pos hremoved⟩
  rcases h with rfl | ⟨rfl, rfl, rfl⟩
  · exact .inl (by rw [Place.line, String.toList_ofList])
  · exact .inr ⟨rfl, rfl, rfl⟩

/-- No line spells nothing. -/
theorem spells_nil : Spells [] [] := .nil

/-- A mark of a missing line break adds no line. -/
theorem Spells.mark {line : Line} {block : List Line} {ls : List HunkLine}
    (hmark : isNoNewlineMark line = true) (h : Spells block ls) : Spells (line :: block) ls := by
  rw [Spells, List.filter_cons_of_neg (by rw [hmark]; decide)]
  exact h

/-- One more line in front. -/
theorem Spells.cons {line : Line} {block : List Line} {l : HunkLine} {ls : List HunkLine}
    (hmark : ¬isNoNewlineMark line = true) (hline : Writes line l) (h : Spells block ls) :
    Spells (line :: block) (l :: ls) := by
  rw [Spells, List.filter_cons_of_pos (by rw [Bool.eq_false_of_not_eq_true hmark]; rfl)]
  exact .cons hline h

/-- The lines of excess are spelled where they are read. -/
theorem readExcess_spells {header : Nat} {place : Place} {lineNo : Nat} {lines : List Line}
    {b : Body} (h : readExcess header place lineNo lines = .ok b) :
    ∃ block, lines = block ++ b.rest.lines ∧ Spells block b.lines := by
  induction lines generalizing place lineNo b with
  | nil =>
      cases h
      exact ⟨[], rfl, spells_nil⟩
  | cons line lines ih =>
      rw [readExcess] at h
      split at h
      · next hmark =>
          obtain ⟨block, rfl, hspells⟩ := ih h
          exact ⟨line :: block, rfl, hspells.mark hmark⟩
      · next hmark =>
          split at h
          · next kind content hkind =>
              obtain ⟨b', h', rfl⟩ := map_eq_ok h
              obtain ⟨block, rfl, hspells⟩ := ih h'
              have hline := writes_line place (.inl (marked?_eq_some_iff.1 hkind))
              exact ⟨line :: block, rfl, hspells.cons hmark hline⟩
          · obtain ⟨-, rfl⟩ := unmarked_eq_ok h
            exact ⟨[], rfl, spells_nil⟩

/-- The body of a hunk is a block at the front of the lines. -/
theorem readBody_spells {header : Nat} {place : Place} {owed : Owed} {lineNo : Nat}
    {lines : List Line} {b : Body} (h : readBody header place owed lineNo lines = .ok b) :
    ∃ block, lines = block ++ b.rest.lines ∧ Spells block b.lines := by
  induction lines generalizing place owed lineNo b with
  | nil =>
      cases h
      exact ⟨[], rfl, spells_nil⟩
  | cons line lines ih =>
      rw [readBody] at h
      split at h
      · next hmark =>
          obtain ⟨block, rfl, hspells⟩ := ih h
          exact ⟨line :: block, rfl, hspells.mark hmark⟩
      next hmark =>
      split at h
      · split at h
        · next kind content hkind =>
            obtain ⟨b', h', rfl⟩ := map_eq_ok h
            obtain ⟨block, rfl, hspells⟩ := ih h'
            refine ⟨line :: block, rfl, hspells.cons hmark (writes_line place ?_)⟩
            -- an empty line is an empty context line while both sides are owed one
            split at hkind
            · next hblank =>
                cases hkind
                exact .inr ⟨List.isEmpty_iff.1 (Bool.and_eq_true _ _ ▸ hblank).1, rfl, rfl⟩
            · exact .inl (marked?_eq_some_iff.1 hkind)
        · obtain ⟨-, rfl⟩ := unmarked_eq_ok h
          exact ⟨[], rfl, spells_nil⟩
      split at h
      · exact readExcess_spells h
      · cases h
        exact ⟨[], rfl, spells_nil⟩

/-! ## The hunks of a section -/

/-- The hunks of a section stand in the lines in front of those that are left. -/
theorem readHunks_laidOut {lineNo : Nat} {lines : List Line} {hs : Hunks}
    (h : readHunks lineNo lines = .ok hs) :
    ∃ front, lines = front ++ hs.rest.lines ∧ LaidOut front hs.hunks := by
  fun_induction readHunks lineNo lines generalizing hs with
  | case1 =>
      cases h
      exact ⟨[], rfl, .none _⟩
  | case2 => cases h
  | case3 => cases h
  | case4 lineNo line below hopens hh hread body hb _ ih =>
      obtain ⟨more, hmore, rfl⟩ := map_eq_ok h
      obtain ⟨block, rfl, hspells⟩ := readBody_spells hb
      obtain ⟨front, hrest, hlaid⟩ := ih hmore
      refine ⟨line :: (block ++ front), by rw [hrest]; simp, ?_⟩
      exact .hunk [] ⟨hopens, ⟨lineNo, hh, hread, rfl⟩, hspells, readBody_numbered hb⟩ hlaid
  | case5 lineNo line below _ _ ih =>
      obtain ⟨front, rfl, hlaid⟩ := ih h
      exact ⟨line :: front, rfl, hlaid.behind [line]⟩
  | case6 =>
      cases h
      exact ⟨[], rfl, .none _⟩
  | case7 => cases h
  | case8 =>
      cases h
      exact ⟨[], rfl, .none _⟩

private theorem readSides_laidOut
    {header : Nat} {isRename : Bool} {lineNo : Nat} {lines : List Line}
    {s : Section} (h : readSides header isRename lineNo lines = .ok s) :
    ∃ front, lines = front ++ s.rest.lines ∧ LaidOut front s.file.hunks := by
  obtain ⟨old, new, below, rfl, hs⟩ := readSides_hunks h
  obtain ⟨front, rfl, hlaid⟩ := readHunks_laidOut hs
  exact ⟨old :: new :: front, rfl, hlaid.behind [old, new]⟩

private theorem readSection_laidOut {header : Line} {lineNo : Nat} {lines : List Line} {s : Section}
    (h : readSection header lineNo lines = .ok s) :
    ∃ front, lines = front ++ s.rest.lines ∧ LaidOut front s.file.hunks := by
  rcases readSection_hunks h with hnone | ⟨before, below, no, rfl, hs⟩
  · obtain ⟨front, hfront, -⟩ := readSection_endOf h
    rw [hnone]
    exact ⟨front, hfront, .none _⟩
  · obtain ⟨front, rfl, hlaid⟩ := readHunks_laidOut hs
    exact ⟨before ++ front, (List.append_assoc _ _ _).symm, hlaid.behind before⟩

/-! ## The whole diff -/

/-- The hunks of all sections are laid out one after the other. -/
theorem readSections_laidOut {lineNo : Nat} {lines : List Line} {files : List FileDiff}
    (h : readSections lineNo lines = .ok files) : LaidOut lines (files.flatMap (·.hunks)) := by
  fun_induction readSections lineNo lines generalizing files with
  | case1 =>
      cases h
      exact .none _
  | case2 => cases h
  | case3 lineNo line below _ s hs _ ih =>
      obtain ⟨more, hmore, rfl⟩ := map_eq_ok h
      obtain ⟨front, rfl, hlaid⟩ := readSection_laidOut hs
      exact (hlaid.append (ih hmore)).behind [line]
  | case4 => cases h
  | case5 lineNo line below _ _ s hs _ ih =>
      obtain ⟨more, hmore, rfl⟩ := map_eq_ok h
      obtain ⟨front, hlines, hlaid⟩ := readSides_laidOut hs
      rw [hlines]
      exact hlaid.append (ih hmore)
  | case6 => cases h
  | case7 lineNo line below _ _ _ ih => exact (ih h).behind [line]

/-- The hunks of a diff stand in its lines, in order and apart, each as its header and a block of
    its lines right after it. -/
theorem read_laidOut {text : String} {files : List FileDiff} (h : read text = .ok files) :
    LaidOut (linesOf text.toList) (files.flatMap (·.hunks)) :=
  readSections_laidOut h

/-- A diff with an empty context line and a mark of a missing line break in its first hunk, and
    one line too many at its end. -/
def looseText : String :=
  "--- a/x\n+++ b/x\n@@ -1,2 +1,2 @@ f\n-a\n\\ No newline at end of file\n+b\r\n\n"
    ++ "@@ -9 +9 @@\n-c\n+d\n+e\n"

/-- The hunks of `looseText`. -/
def looseHunks : List Hunk :=
  [{ oldStart := 1, oldCount := 2, newStart := 1, newCount := 2, heading := "f"
     lines :=
       [{ kind := .removed, content := "a", oldNo := some 1 },
        { kind := .added, content := "b", newNo := some 1 },
        { kind := .context, content := "", oldNo := some 2, newNo := some 2 }] },
   { oldStart := 9, oldCount := 1, newStart := 9, newCount := 1
     lines :=
       [{ kind := .removed, content := "c", oldNo := some 9 },
        { kind := .added, content := "d", newNo := some 9 },
        { kind := .added, content := "e", newNo := some 10 }] }]

/-- Both hunks have their block, the mark and the line too many included. -/
theorem read_laidOut_of_looseText :
    read looseText = .ok [{ oldPath := some "x", newPath := some "x", hunks := looseHunks }] ∧
      LaidOut (linesOf looseText.toList) looseHunks := by
  have hread : read looseText
      = .ok [{ oldPath := some "x", newPath := some "x", hunks := looseHunks }] := by
    decide +kernel
  have hlaid := read_laidOut hread
  rw [List.flatMap_singleton] at hlaid
  exact ⟨hread, hlaid⟩

end DiffGauge.Diff
