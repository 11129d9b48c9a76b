import DiffGauge.Proofs.Diff.Counts
import DiffGauge.Proofs.Diff.Layout

/-!
# Lines too many

A hunk may go on behind the lines that its header states, but only to the end of the text. The
lines too many are its excess. What stands from there on is looked at one line at a time, by its
first character: all of it has to be lines of a body, and then all of it is taken in, up to blank
lines at the end. So no header of a hunk and no opening of a section is ever among the excess. A
pair of path lines and the separator before a signature do look like lines of a body, though, and
where nothing else follows them they are taken in as well (`exists_excess_of_structure`).

* `readBody_ends` says of one body how it ends, from both sides: there is no excess unless the text
  goes on with lines of a body to its end (`EndsBefore.toEnd`), and where it does, the excess leaves
  only blank lines (`EndsBefore.whole`);
* `excess_eq_nil_of_isSettled` says that a hunk which something follows has no excess;
* `read_excess` is the statement about a diff.
-/

namespace DiffGauge.Diff

open Text

/-- The line of a hunk with its mark in front. -/
def HunkLine.text (l : HunkLine) : Line := l.kind.mark :: l.content.toList

/-- The lines behind all that is owed. -/
def excessOf (owed : Owed) : List HunkLine → List HunkLine
  | [] => []
  | l :: ls => if owed.some then excessOf (owed.after l.kind) ls else l :: ls

/-- What the header of a hunk states. -/
def Hunk.owed (k : Hunk) : Owed := ⟨k.oldCount.toNat, k.newCount.toNat⟩

/-- The lines of a hunk behind all that its header states. -/
def Hunk.excess (k : Hunk) : List HunkLine := excessOf k.owed k.lines

/-- How some lines that are read for a body end: their excess is the block `excess`, and `after`
    stands behind it. From the excess on there are lines of a body and nothing else, and those that
    stay behind are blank. Where nothing is owed any more and only lines of a body stay behind, they
    are blank too. -/
structure EndsBefore (after excess : List Line) (owed : Owed) (lines : List HunkLine) :
    Prop where
  spells : Spells excess (excessOf owed lines)
  begins : ∀ line ∈ excess.head?, isNoNewlineMark line = false
  toEnd : excess ≠ [] → ∀ line ∈ excess ++ after,
    isBodyLine line = true ∧ opensHunk line = false ∧ opensSection line = false
  blank : excess ≠ [] → after.all allBlank = true
  whole : owed.old ≤ (oldSide lines).length → owed.new ≤ (newSide lines).length →
    after.all isBodyLine = true → after.all allBlank = true

/-- The hunk stands in the lines: a header, the lines that it states, the excess, and what is
    behind it. -/
def Hunk.StandsIn (k : Hunk) (lines : List Line) : Prop :=
  ∃ front header counted excess after,
    lines = front ++ header :: (counted ++ (excess ++ after)) ∧
      IsTextOf header (counted ++ excess) k ∧ EndsBefore after excess k.owed k.lines

/-! ## Lines of a body -/

/-- A line of a body opens neither a hunk nor a section. -/
theorem not_opens_of_isBodyLine {line : Line} (h : isBodyLine line = true) :
    opensHunk line = false ∧ opensSection line = false := by
  rw [isBodyLine, Bool.or_eq_true, Bool.or_eq_true, Option.isSome_iff_exists] at h
  rcases h with (⟨⟨kind, content⟩, hmarked⟩ | hempty) | hmark
  · rw [marked?_eq_some_iff.1 hmarked]
    cases kind with
    | context => exact ⟨rfl, rfl⟩
    | added => exact ⟨rfl, rfl⟩
    | removed => exact ⟨rfl, rfl⟩
  · rw [List.isEmpty_iff.1 hempty]
    exact ⟨rfl, rfl⟩
  · rw [isNoNewlineMark, beq_iff_eq] at hmark
    rw [hmark]
    decide

/-! ## How a body ends -/

private theorem excessOf_eq_self {owed : Owed} (h : ¬owed.some = true) (lines : List HunkLine) :
    excessOf owed lines = lines := by
  cases lines with
  | nil => rfl
  | cons l ls => rw [excessOf, if_neg h]

/-- Where nothing is too many, only what is left in front of lines of a body is to be shown. -/
theorem endsBefore_nil {after : List Line} {owed : Owed}
    (hwhole : owed.old = 0 → owed.new = 0 → after.all isBodyLine = true →
      after.all allBlank = true) : EndsBefore after [] owed [] where
  spells := spells_nil
  begins := nofun
  toEnd hne := absurd rfl hne
  blank hne := absurd rfl hne
  whole hold hnew := hwhole (Nat.le_zero.1 hold) (Nat.le_zero.1 hnew)

/-- A line that is owed is none too many. -/
theorem EndsBefore.push {after excess : List Line} {owed : Owed} {kind : LineKind}
    {lines : List HunkLine} (howed : owed.some = true)
    (h : EndsBefore after excess (owed.after kind) lines) (place : Place) (content : List Char) :
    EndsBefore after excess owed (place.line kind content :: lines) where
  spells := by
    rw [excessOf, if_pos howed]
    exact h.spells
  begins := h.begins
  toEnd := h.toEnd
  blank := h.blank
  whole hold hnew := by
    rw [oldSide_length_line] at hold
    rw [newSide_length_line] at hnew
    refine h.whole ?_ ?_
    · rw [owed.after_old]
      omega
    · rw [owed.after_new]
      omega

/-- Behind all that is owed, a body takes in what is left of the text, up to blank lines. -/
theorem readExcess_ends {header : Nat} {place : Place} {owed : Owed} {lineNo : Nat} {line : Line}
    {below : List Line} {b : Body} (howed : ¬owed.some = true)
    (hmark : ¬isNoNewlineMark line = true) (hbody : (line :: below).all isBodyLine = true)
    (h : readExcess header place lineNo (line :: below) = .ok b) :
    ∃ excess, line :: below = excess ++ b.rest.lines ∧
      EndsBefore b.rest.lines excess owed b.lines := by
  obtain ⟨excess, hlines, hspells⟩ := readExcess_spells h
  have hblank := readExcess_blank h
  refine ⟨excess, hlines, ?_, ?_, ?_, fun _ => hblank, fun _ _ _ => hblank⟩
  · rwa [excessOf_eq_self howed]
  · intro first hfirst
    cases excess with
    | nil => cases hfirst
    | cons e es =>
        cases hfirst
        rw [← (List.cons.inj hlines).1]
        exact Bool.eq_false_of_not_eq_true hmark
  · intro _ l hl
    rw [← hlines] at hl
    have hline := List.all_eq_true.1 hbody l hl
    exact ⟨hline, not_opens_of_isBodyLine hline⟩

/-- How a body ends: with an excess that goes to the end of the text, or in front of something
    that does not belong to a body, or short of what it is owed. -/
theorem readBody_ends {header : Nat} {place : Place} {owed : Owed} {lineNo : Nat}
    {lines : List Line} {b : Body} (h : readBody header place owed lineNo lines = .ok b) :
    ∃ counted excess, lines = counted ++ (excess ++ b.rest.lines) ∧
      EndsBefore b.rest.lines excess owed b.lines := by
  induction lines generalizing place owed lineNo b with
  | nil =>
      cases h
      exact ⟨[], [], rfl, endsBefore_nil fun _ _ _ => rfl⟩
  | cons line below ih =>
      rw [readBody] at h
      split at h
      · obtain ⟨counted, excess, rfl, hends⟩ := ih h
        exact ⟨line :: counted, excess, rfl, hends⟩
      next hmark =>
      split at h
      · next howed =>
          split at h
          · obtain ⟨b', h', rfl⟩ := map_eq_ok h
            obtain ⟨counted, excess, rfl, hends⟩ := ih h'
            exact ⟨line :: counted, excess, rfl, hends.push howed place _⟩
          · obtain ⟨hblank, rfl⟩ := unmarked_eq_ok h
            exact ⟨[], [], rfl, endsBefore_nil fun _ _ _ => hblank⟩
      · next howed =>
          split at h
          · next hbody =>
              obtain ⟨excess, hlines, hends⟩ := readExcess_ends howed hmark hbody h
              exact ⟨[], excess, hlines, hends⟩
          · next hbody =>
              cases h
              exact ⟨[], [], rfl, endsBefore_nil fun _ _ hall => absurd hall hbody⟩

/-! ## The place of a hunk -/

/-- Lines in front do not matter. -/
theorem Hunk.StandsIn.behind {k : Hunk} {lines : List Line} (h : k.StandsIn lines)
    (more : List Line) : k.StandsIn (more ++ lines) := by
  obtain ⟨front, header, counted, excess, after, rfl, htext, hends⟩ := h
  exact ⟨more ++ front, header, counted, excess, after, by rw [List.append_assoc], htext, hends⟩

private theorem readHunks_standsIn {lineNo : Nat} {lines : List Line} {hs : Hunks}
    (h : readHunks lineNo lines = .ok hs) : ∀ k ∈ hs.hunks, k.StandsIn lines := by
  fun_induction readHunks lineNo lines generalizing hs with
  | case1 =>
      cases h
      exact List.forall_mem_nil _
  | case2 => cases h
  | case3 => cases h
  | case4 lineNo line below hopens hh hread body hb _ ih =>
      obtain ⟨more, hmore, rfl⟩ := map_eq_ok h
      obtain ⟨block, hblock, hspells⟩ := readBody_spells hb
      obtain ⟨counted, excess, hcounted, hends⟩ := readBody_ends hb
      obtain rfl : block = counted ++ excess := by
        rw [hblock, ← List.append_assoc] at hcounted
        exact List.append_cancel_right hcounted
      refine List.forall_mem_cons.2 ⟨?_, fun k hk => ?_⟩
      · exact ⟨[], line, counted, excess, body.rest.lines, by rw [hcounted]; rfl,
          ⟨hopens, ⟨lineNo, hh, hread, rfl⟩, hspells, readBody_numbered hb⟩, hends⟩
      · obtain ⟨front, hfront, -⟩ := readBody_endOf hb
        rw [hfront]
        exact (ih hmore k hk).behind (line :: front)
  | case5 lineNo line below _ _ ih => exact fun k hk => (ih h k hk).behind [line]
  | case6 =>
      cases h
      exact List.forall_mem_nil _
  | case7 => cases h
  | case8 =>
      cases h
      exact List.forall_mem_nil _

private theorem readSides_standsIn
    {header : Nat} {isRename : Bool} {lineNo : Nat} {lines : List Line}
    {s : Section} (h : readSides header isRename lineNo lines = .ok s) :
    ∀ k ∈ s.file.hunks, k.StandsIn lines := by
  obtain ⟨old, new, below, rfl, hs⟩ := readSides_hunks h
  exact fun k hk => (readHunks_standsIn hs k hk).behind [old, new]

private theorem readSection_standsIn
    {header : Line} {lineNo : Nat} {lines : List Line} {s : Section}
    (h : readSection header lineNo lines = .ok s) : ∀ k ∈ s.file.hunks, k.StandsIn lines := by
  rcases readSection_hunks h with hnone | ⟨front, below, no, rfl, hs⟩
  · rw [hnone]
    exact List.forall_mem_nil _
  · exact fun k hk => (readHunks_standsIn hs k hk).behind front

private theorem readSections_standsIn {lineNo : Nat} {lines : List Line} {files : List FileDiff}
    (h : readSections lineNo lines = .ok files) :
    ∀ f ∈ files, ∀ k ∈ f.hunks, k.StandsIn lines := by
  fun_induction readSections lineNo lines generalizing files with
  | case1 =>
      cases h
      exact List.forall_mem_nil _
  | case2 => cases h
  | case3 lineNo line below _ s hs _ ih =>
      obtain ⟨more, hmore, rfl⟩ := map_eq_ok h
      obtain ⟨front, hfront, -⟩ := readSection_endOf hs
      refine List.forall_mem_cons.2 ⟨fun k hk => ?_, fun f hf k hk => ?_⟩
      · exact (readSection_standsIn hs k hk).behind [line]
      · rw [hfront]
        exact (ih hmore f hf k hk).behind (line :: front)
  | case4 => cases h
  | case5 lineNo line below _ _ s hs _ ih =>
      obtain ⟨more, hmore, rfl⟩ := map_eq_ok h
      obtain ⟨old, new, below', hlines, front, hfront, -⟩ := readSides_endOf hs
      refine List.forall_mem_cons.2 ⟨readSides_standsIn hs, fun f hf k hk => ?_⟩
      rw [hlines, hfront]
      exact (ih hmore f hf k hk).behind (old :: new :: front)
  | case6 => cases h
  | case7 lineNo line below _ _ _ ih => exact fun f hf k hk => (ih h f hf k hk).behind [line]

/-! ## Hunks that something follows -/

/-- In front of the excess, both sides have what they are owed. -/
theorem exists_counted (owed : Owed) (lines : List HunkLine) :
    ∃ counted, lines = counted ++ excessOf owed lines ∧
      (excessOf owed lines ≠ [] →
        owed.old ≤ (oldSide counted).length ∧ owed.new ≤ (newSide counted).length) := by
  induction lines generalizing owed with
  | nil => exact ⟨[], rfl, fun hne => absurd rfl hne⟩
  | cons l ls ih =>
      by_cases howed : owed.some = true
      · obtain ⟨counted, hls, hall⟩ := ih (owed.after l.kind)
        rw [excessOf, if_pos howed]
        refine ⟨l :: counted, by rw [List.cons_append, ← hls], fun hne => ?_⟩
        obtain ⟨hold, hnew⟩ := hall hne
        rw [owed.after_old] at hold
        rw [owed.after_new] at hnew
        rw [length_oldSide_cons, length_newSide_cons]
        constructor <;> omega
      · rw [owed.some_iff] at howed
        rw [excessOf_eq_self (by rwa [owed.some_iff])]
        exact ⟨[], rfl, fun _ => by constructor <;> omega⟩

/-- A hunk that ends where both its sides have what its header states has no excess. -/
theorem excess_eq_nil_of_isSettled {k : Hunk} (h : k.IsSettled) : k.excess = [] := by
  by_contra hne
  obtain ⟨counted, hlines, hall⟩ := exists_counted k.owed k.lines
  obtain ⟨hold, hnew⟩ := hall hne
  have hlast := h.no_sooner (counted ++ k.excess.dropLast) (k.excess.getLast hne) (by
    rw [List.append_assoc, List.dropLast_append_getLast]
    exact hlines)
  rw [oldSide_append, newSide_append, List.length_append, List.length_append] at hlast
  change k.oldCount.toNat ≤ _ at hold
  change k.newCount.toNat ≤ _ at hnew
  omega

/-! ## The whole diff -/

/-- Every hunk of a diff has its place in the text, where its excess, if it has any, goes to the
    end; and only the last hunk of the last file has any. -/
theorem read_excess {text : String} {files : List FileDiff} (h : read text = .ok files) :
    (∀ f ∈ files, ∀ k ∈ f.hunks, k.StandsIn (linesOf text.toList)) ∧
      (∀ f ∈ files, ∀ k ∈ f.hunks.dropLast, k.excess = []) ∧
      ∀ f ∈ files.dropLast, ∀ k ∈ f.hunks, k.excess = [] := by
  obtain ⟨hhunks, hfiles⟩ := read_followedSettled h
  exact ⟨readSections_standsIn h,
    fun f hf k hk => excess_eq_nil_of_isSettled (hhunks f hf k hk),
    fun f hf k hk => excess_eq_nil_of_isSettled (hfiles f hf k hk)⟩

/-- A pair of path lines behind a hunk that is settled. -/
def pathsAtEnd : String :=
  "--- a/x\n+++ b/x\n@@ -1,1 +1,1 @@\n-a\n+b\n--- a/y\n+++ b/y\n"

/-- The pair is read as a removed and an added line. -/
def pathsAtEndHunk : Hunk :=
  { oldStart := 1
    oldCount := 1
    newStart := 1
    newCount := 1
    lines :=
      [{ kind := .removed, content := "a", oldNo := some 1 },
       { kind := .added, content := "b", newNo := some 1 },
       { kind := .removed, content := "-- a/y", oldNo := some 2 },
       { kind := .added, content := "++ b/y", newNo := some 2 }] }

private theorem read_pathsAtEnd :
    read pathsAtEnd
      = .ok [{ oldPath := some "x", newPath := some "x", hunks := [pathsAtEndHunk] }] := by
  decide +kernel

/-- The excess of the hunk is the pair, and it goes to the end of the text. -/
theorem read_excess_of_pathsAtEnd :
    read pathsAtEnd
        = .ok [{ oldPath := some "x", newPath := some "x", hunks := [pathsAtEndHunk] }] ∧
      pathsAtEndHunk.excess.map (·.content) = ["-- a/y", "++ b/y"] ∧
      pathsAtEndHunk.StandsIn (linesOf pathsAtEnd.toList) := by
  obtain ⟨hplace, -, -⟩ := read_excess read_pathsAtEnd
  exact ⟨read_pathsAtEnd, by decide, hplace _ List.mem_cons_self _ List.mem_cons_self⟩

/-- The separator before a signature behind a hunk that is settled. -/
def separatorAtEnd : String := "--- a/x\n+++ b/x\n@@ -1,1 +1,1 @@\n-a\n+b\n-- \n"

/-- The separator is read as a removed line. -/
def separatorAtEndHunk : Hunk :=
  { oldStart := 1
    oldCount := 1
    newStart := 1
    newCount := 1
    lines :=
      [{ kind := .removed, content := "a", oldNo := some 1 },
       { kind := .added, content := "b", newNo := some 1 },
       { kind := .removed, content := "- ", oldNo := some 2 }] }

private theorem read_separatorAtEnd :
    read separatorAtEnd
      = .ok [{ oldPath := some "x", newPath := some "x", hunks := [separatorAtEndHunk] }] := by
  decide +kernel

/-- The excess of a hunk may be a pair of path lines that ends the text, or the separator before a
    signature. -/
theorem exists_excess_of_structure :
    (¬∀ (text : String) (files : List FileDiff) (front : List Line) (old new : Line),
      read text = .ok files → linesOf text.toList = front ++ [old, new] →
      atPathLines [old, new] = true →
      ∀ f ∈ files, ∀ k ∈ f.hunks, k.excess.map HunkLine.text ≠ [old, new]) ∧
      ¬∀ (text : String) (files : List FileDiff), read text = .ok files →
        ∀ f ∈ files, ∀ k ∈ f.hunks, ∀ l ∈ k.excess, l.text ≠ "-- ".toList := by
  constructor
  · intro h
    have hpaths := h pathsAtEnd _ ((linesOf pathsAtEnd.toList).take 5) "--- a/y".toList
      "+++ b/y".toList read_pathsAtEnd (by decide +kernel) (by decide)
    exact hpaths _ List.mem_cons_self _ List.mem_cons_self (by decide)
  · intro h
    have hhunk := h separatorAtEnd _ read_separatorAtEnd _ List.mem_cons_self _ List.mem_cons_self
    exact hhunk { kind := .removed, content := "- ", oldNo := some 2 } (by decide) (by decide)

end DiffGauge.Diff
