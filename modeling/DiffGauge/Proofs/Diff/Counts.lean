import DiffGauge.Proofs.Diff.Numbering
import Mathlib

/-!
# The counts that a hunk header states

A hunk that something follows is settled: neither side is short of the lines that the header
states, and no line stands in the hunk after both sides have theirs. A side may have more lines
than stated, though, as long as the other side is still owed one: the body is read until neither
is (`exists_followed_not_isExact`).

* `readBody_settles` follows the body of one hunk;
* `readHunks_settledUpTo` and `readSections_settledUpTo` take it to the hunks that another hunk,
  another section or any other text follows;
* `read_followedSettled` is the statement about a diff.
-/

namespace DiffGauge.Diff

open Text

/-- The lines end with the one that gives both sides as many lines as they are owed. -/
structure Settles (old new : Int) (lines : List HunkLine) : Prop where
  old_le : old ≤ (oldSide lines).length
  new_le : new ≤ (newSide lines).length
  no_sooner : ∀ front last, lines = front ++ [last] →
    ((oldSide front).length : Int) < old ∨ ((newSide front).length : Int) < new

/-- The hunk ends with the line that gives both sides as many lines as its header states. -/
def Hunk.IsSettled (k : Hunk) : Prop := Settles k.oldCount k.newCount k.lines

/-! ## One hunk -/

/-- A line of a body counts for the old side if it stands there. -/
theorem oldSide_length_line (place : Place) (kind : LineKind) (content : List Char)
    (ls : List HunkLine) :
    (oldSide (place.line kind content :: ls)).length
      = (oldSide ls).length + if kind.onOld then 1 else 0 :=
  length_oldSide_cons (place.line kind content) ls

/-- A line of a body counts for the new side if it stands there. -/
theorem newSide_length_line (place : Place) (kind : LineKind) (content : List Char)
    (ls : List HunkLine) :
    (newSide (place.line kind content :: ls)).length
      = (newSide ls).length + if kind.onNew then 1 else 0 :=
  length_newSide_cons (place.line kind content) ls

/-- What the old side is owed after a line. -/
theorem Owed.after_old (o : Owed) (kind : LineKind) :
    (o.after kind).old = o.old - if kind.onOld then 1 else 0 := by
  cases kind with
  | context => rfl
  | added => rfl
  | removed => rfl

/-- What the new side is owed after a line. -/
theorem Owed.after_new (o : Owed) (kind : LineKind) :
    (o.after kind).new = o.new - if kind.onNew then 1 else 0 := by
  cases kind with
  | context => rfl
  | added => rfl
  | removed => rfl

/-- Something is owed as long as one of the sides is owed a line. -/
theorem Owed.some_iff (o : Owed) : o.some = true ↔ 0 < o.old ∨ 0 < o.new := by
  rw [Owed.some, Bool.or_eq_true, decide_eq_true_iff, decide_eq_true_iff]

/-- No line settles what is not owed. -/
theorem settles_nil {o : Owed} (h : ¬o.some = true) : Settles o.old o.new [] := by
  rw [o.some_iff] at h
  refine ⟨?_, ?_, fun front last e => ?_⟩
  · show (o.old : Int) ≤ 0
    omega
  · show (o.new : Int) ≤ 0
    omega
  · simp at e

/-- A line that is owed on one side at least comes before those that settle the rest. -/
theorem Settles.push {o : Owed} {kind : LineKind} {ls : List HunkLine}
    (howed : o.some = true) (h : Settles (o.after kind).old (o.after kind).new ls)
    (place : Place) (content : List Char) :
    Settles o.old o.new (place.line kind content :: ls) := by
  obtain ⟨hold, hnew, hlast⟩ := h
  rw [o.some_iff] at howed
  rw [o.after_old] at hold hlast
  rw [o.after_new] at hnew hlast
  refine ⟨?_, ?_, fun front last e => ?_⟩
  · rw [oldSide_length_line]
    omega
  · rw [newSide_length_line]
    omega
  · cases front with
    | nil =>
        show (0 : Int) < o.old ∨ (0 : Int) < o.new
        omega
    | cons l front =>
        obtain ⟨rfl, rfl⟩ := List.cons.inj e
        have hfront := hlast front last rfl
        rw [oldSide_length_line, newSide_length_line]
        omega

/-- Nothing but blank lines is left behind excess. -/
theorem readExcess_blank {header : Nat} {place : Place} {lineNo : Nat} {lines : List Line}
    {b : Body} (h : readExcess header place lineNo lines = .ok b) :
    b.rest.lines.all allBlank = true := by
  induction lines generalizing place lineNo b with
  | nil =>
      cases h
      rfl
  | cons line lines ih =>
      rw [readExcess] at h
      split at h
      · exact ih h
      · split at h
        · obtain ⟨b', h', rfl⟩ := map_eq_ok h
          exact ih (b := b') h'
        · obtain ⟨hblank, rfl⟩ := unmarked_eq_ok h
          exact hblank

/-- A body settles what it is owed, unless nothing but blanks follows it. -/
theorem readBody_settles {header : Nat} {place : Place} {owed : Owed} {lineNo : Nat}
    {lines : List Line} {b : Body} (h : readBody header place owed lineNo lines = .ok b) :
    b.rest.lines.all allBlank = true ∨ Settles owed.old owed.new b.lines := by
  induction lines generalizing place owed lineNo b with
  | nil =>
      cases h
      exact .inl rfl
  | cons line lines ih =>
      rw [readBody] at h
      split at h
      · exact ih h
      split at h
      · next howed =>
          split at h
          · obtain ⟨b', h', rfl⟩ := map_eq_ok h
            rcases ih h' with hblank | hsettles
            · exact .inl hblank
            · exact .inr (hsettles.push howed place _)
          · obtain ⟨hblank, rfl⟩ := unmarked_eq_ok h
            exact .inl hblank
      · next howed =>
          split at h
          · exact .inl (readExcess_blank h)
          · cases h
            exact .inr (settles_nil howed)

/-! ## What blank lines hold -/

/-- A blank line does not begin with a text that begins with no blank. -/
theorem hasLead_of_allBlank {lead : String} {line : Line} {c : Char} {cs : List Char}
    (hlead : lead.toList = c :: cs) (hc : isBlank c = false) (h : allBlank line = true) :
    hasLead lead line = false := by
  rw [hasLead, dropLead?, hlead]
  cases line with
  | nil => rfl
  | cons d ds =>
      have hd : isBlank d = true := (Bool.and_eq_true _ _ ▸ h : _ ∧ _).1
      have hne : c ≠ d := by
        rintro rfl
        rw [hc] at hd
        cases hd
      rw [after?, if_neg hne]
      rfl

private theorem opensHunk_of_allBlank {line : Line} (h : allBlank line = true) :
    opensHunk line = false :=
  hasLead_of_allBlank (c := '@') rfl (by decide) h

private theorem opensSection_of_allBlank {line : Line} (h : allBlank line = true) :
    opensSection line = false :=
  hasLead_of_allBlank (c := 'd') rfl (by decide) h

private theorem atPathLines_of_allBlank
    {line : Line} (h : allBlank line = true) (below : List Line) :
    atPathLines (line :: below) = false := by
  cases below with
  | nil => rfl
  | cons new below =>
      rw [atPathLines, hasLead_of_allBlank (c := '-') rfl (by decide) h, Bool.false_and]

private theorem isNoNewlineMark_of_allBlank {line : Line} (h : allBlank line = true) :
    isNoNewlineMark line = false := by
  rw [isNoNewlineMark, beq_eq_false_iff_ne]
  rintro rfl
  exact absurd h (by decide)

/-- Blank lines hold no hunk. -/
theorem readHunks_of_blank {lineNo : Nat} {lines : List Line} {hs : Hunks}
    (hblank : lines.all allBlank = true) (h : readHunks lineNo lines = .ok hs) :
    hs.hunks = [] := by
  cases lines with
  | nil =>
      rw [readHunks] at h
      cases h
      rfl
  | cons line below =>
      have hline : allBlank line = true := List.all_eq_true.1 hblank line List.mem_cons_self
      rw [readHunks, opensHunk_of_allBlank hline, isNoNewlineMark_of_allBlank hline] at h
      simp only [Bool.false_eq_true, if_false] at h
      repeat' split at h
      all_goals cases h
      all_goals rfl

/-- Blank lines hold no section. -/
theorem readSections_of_blank (lineNo : Nat) {lines : List Line}
    (hblank : lines.all allBlank = true) : readSections lineNo lines = .ok [] := by
  induction lines generalizing lineNo with
  | nil => rw [readSections]
  | cons line below ih =>
      rw [List.all_cons, Bool.and_eq_true] at hblank
      obtain ⟨hline, hbelow⟩ := hblank
      rw [readSections, opensSection_of_allBlank hline, atPathLines_of_allBlank hline,
        opensHunk_of_allBlank hline]
      exact ih (lineNo + 1) hbelow

private theorem Input.EndOf.all_blank {rest : Input} {lineNo : Nat} {lines : List Line}
    (h : rest.EndOf lineNo lines) (hblank : lines.all allBlank = true) :
    rest.lines.all allBlank = true := by
  obtain ⟨front, rfl, -⟩ := h
  rw [List.all_append, Bool.and_eq_true] at hblank
  exact hblank.2

/-! ## The hunks of a section -/

/-- The hunks that another hunk follows are settled, and the last one too if more than blank lines
    follow it. -/
structure SettledUpTo (rest : List Line) (hunks : List Hunk) : Prop where
  followed : ∀ k ∈ hunks.dropLast, k.IsSettled
  last : ¬rest.all allBlank = true → ∀ k ∈ hunks, k.IsSettled

private theorem settledUpTo_nil (rest : List Line) : SettledUpTo rest [] :=
  ⟨fun _ hk => absurd hk List.not_mem_nil, fun _ _ hk => absurd hk List.not_mem_nil⟩

/-- Nothing is said of a hunk that only blank lines follow. -/
theorem settledUpTo_singleton {rest : List Line} (hblank : rest.all allBlank = true) (k : Hunk) :
    SettledUpTo rest [k] :=
  ⟨fun _ hk => absurd hk List.not_mem_nil, fun hne => absurd hblank hne⟩

/-- A settled hunk may come before others. -/
theorem SettledUpTo.cons {rest : List Line} {k : Hunk} {ks : List Hunk} (hk : k.IsSettled)
    (h : SettledUpTo rest ks) : SettledUpTo rest (k :: ks) := by
  refine ⟨?_, fun hne => List.forall_mem_cons.2 ⟨hk, h.last hne⟩⟩
  cases ks with
  | nil => exact fun _ hmem => absurd hmem List.not_mem_nil
  | cons k' ks => exact List.forall_mem_cons.2 ⟨hk, h.followed⟩

/-- The hunks that are read are settled up to what follows them. -/
theorem readHunks_settledUpTo {lineNo : Nat} {lines : List Line} {hs : Hunks}
    (h : readHunks lineNo lines = .ok hs) : SettledUpTo hs.rest.lines hs.hunks := by
  fun_induction readHunks lineNo lines generalizing hs with
  | case1 =>
      cases h
      exact settledUpTo_nil _
  | case2 => cases h
  | case3 => cases h
  | case4 lineNo line below _ hh _ body hb _ ih =>
      obtain ⟨more, hmore, rfl⟩ := map_eq_ok h
      rcases readBody_settles hb with hblank | hsettles
      -- blank lines hold no further hunk, and they are what follows this one
      · have hrest := (readHunks_endOf hmore).all_blank hblank
        simp only [readHunks_of_blank hblank hmore]
        exact settledUpTo_singleton hrest _
      · exact .cons hsettles (ih hmore)
  | case5 lineNo line below _ _ ih => exact ih h
  | case6 =>
      cases h
      exact settledUpTo_nil _
  | case7 => cases h
  | case8 =>
      cases h
      exact settledUpTo_nil _

private theorem readSides_settledUpTo {header : Nat} {isRename : Bool} {lineNo : Nat}
    {lines : List Line} {s : Section} (h : readSides header isRename lineNo lines = .ok s) :
    SettledUpTo s.rest.lines s.file.hunks := by
  obtain ⟨old, new, below, -, hs⟩ := readSides_hunks h
  exact readHunks_settledUpTo hs

private theorem readSection_settledUpTo
    {header : Line} {lineNo : Nat} {lines : List Line} {s : Section}
    (h : readSection header lineNo lines = .ok s) :
    SettledUpTo s.rest.lines s.file.hunks := by
  rcases readSection_hunks h with hnone | ⟨front, below, no, -, hs⟩
  · rw [hnone]
    exact settledUpTo_nil _
  · exact readHunks_settledUpTo hs

/-! ## The whole diff -/

/-- The hunks that another hunk of their file follows are settled, and so are all hunks of a file
    that another file follows. -/
structure FollowedSettled (files : List FileDiff) : Prop where
  hunks : ∀ f ∈ files, ∀ k ∈ f.hunks.dropLast, k.IsSettled
  files : ∀ f ∈ files.dropLast, ∀ k ∈ f.hunks, k.IsSettled

/-- A section in front of others; if there are others, more than blank lines follow it. -/
theorem FollowedSettled.cons {rest : List Line} {f : FileDiff} {fs : List FileDiff}
    (hf : SettledUpTo rest f.hunks) (hrest : rest.all allBlank = true → fs = [])
    (h : FollowedSettled fs) : FollowedSettled (f :: fs) := by
  refine ⟨List.forall_mem_cons.2 ⟨hf.followed, h.hunks⟩, ?_⟩
  cases fs with
  | nil => exact fun _ hmem => absurd hmem List.not_mem_nil
  | cons f' fs =>
      have hmore : ¬rest.all allBlank = true := fun hblank => List.cons_ne_nil f' fs (hrest hblank)
      exact List.forall_mem_cons.2 ⟨hf.last hmore, h.files⟩

/-- No section is read from blank lines. -/
theorem eq_nil_of_blank {lineNo : Nat} {lines : List Line} {files : List FileDiff}
    (h : readSections lineNo lines = .ok files) (hblank : lines.all allBlank = true) :
    files = [] := by
  rw [readSections_of_blank lineNo hblank] at h
  cases h
  rfl

private theorem readSections_followedSettled
    {lineNo : Nat} {lines : List Line} {files : List FileDiff}
    (h : readSections lineNo lines = .ok files) : FollowedSettled files := by
  fun_induction readSections lineNo lines generalizing files with
  | case1 =>
      cases h
      exact ⟨List.forall_mem_nil _, List.forall_mem_nil _⟩
  | case2 => cases h
  | case3 lineNo line below _ s hs _ ih =>
      obtain ⟨more, hmore, rfl⟩ := map_eq_ok h
      exact .cons (readSection_settledUpTo hs) (eq_nil_of_blank hmore) (ih hmore)
  | case4 => cases h
  | case5 lineNo line below _ _ s hs _ ih =>
      obtain ⟨more, hmore, rfl⟩ := map_eq_ok h
      exact .cons (readSides_settledUpTo hs) (eq_nil_of_blank hmore) (ih hmore)
  | case6 => cases h
  | case7 lineNo line below _ _ _ ih => exact ih h

/-- In a diff that is read, every hunk that another hunk or another file follows ends with the
    line that gives both of its sides as many lines as its header states. -/
theorem read_followedSettled {text : String} {files : List FileDiff} (h : read text = .ok files) :
    FollowedSettled files :=
  readSections_followedSettled h

/-- A diff whose first hunk has a second removed line while its new side is still owed two. -/
def overdrawnText : String :=
  "--- a/x
+++ b/x
@@ -1,1 +1,2 @@
-a
-b
+c
+d
@@ -9,1 +9,1 @@
-e
+f
"

/-- The hunks of `overdrawnText`. -/
def overdrawnHunks : List Hunk :=
  [{ oldStart := 1, oldCount := 1, newStart := 1, newCount := 2
     lines :=
       [{ kind := .removed, content := "a", oldNo := some 1 },
        { kind := .removed, content := "b", oldNo := some 2 },
        { kind := .added, content := "c", newNo := some 1 },
        { kind := .added, content := "d", newNo := some 2 }] },
   { oldStart := 9, oldCount := 1, newStart := 9, newCount := 1
     lines :=
       [{ kind := .removed, content := "e", oldNo := some 9 },
        { kind := .added, content := "f", newNo := some 9 }] }]

private theorem read_overdrawnText :
    read overdrawnText
      = .ok [{ oldPath := some "x", newPath := some "x", hunks := overdrawnHunks }] := by
  decide +kernel

/-- The first hunk ends with its fourth line, which is the second one of its new side. -/
theorem read_followedSettled_of_overdrawnText :
    read overdrawnText
      = .ok [{ oldPath := some "x", newPath := some "x", hunks := overdrawnHunks }] ∧
      FollowedSettled [{ oldPath := some "x", newPath := some "x", hunks := overdrawnHunks }] :=
  ⟨read_overdrawnText, read_followedSettled read_overdrawnText⟩

/-- A hunk that another one follows may have more lines on a side than its header states. -/
theorem exists_followed_not_isExact :
    ¬∀ (text : String) (files : List FileDiff), read text = .ok files →
      (∀ f ∈ files, ∀ k ∈ f.hunks.dropLast, k.IsExact) ∧
        ∀ f ∈ files.dropLast, ∀ k ∈ f.hunks, k.IsExact := by
  intro h
  have hhunks := (h overdrawnText _ read_overdrawnText).1 _ List.mem_cons_self
  have hexact := hhunks _ List.mem_cons_self
  exact absurd hexact.oldCount (by decide)

end DiffGauge.Diff
