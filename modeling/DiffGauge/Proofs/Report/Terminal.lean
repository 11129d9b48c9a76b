import DiffGauge.Proofs.Report.Console
import DiffGauge.Proofs.Text.Digits
import DiffGauge.Report.Terminal
import Mathlib

/-!
# What the table on the terminal shows of a change

The path of a file and the label of a unit are printed as markup, while the errors are escaped. So
a row shows them as they are if they are plain, and not if there are tags or escapes in them, and
the report comes to its end if and only if the console can read every path, every label and the
line of every limit.

* `prints_isWhole_iff` says when a report comes to its end;
* `hasRows_of_isWhole` finds the row of every change in it;
* `report_shows_changes` is the statement about all of this, for any console that reads markup.
-/

namespace DiffGauge.Report.Terminal

open Text Gate Analysis

/-! ## Prints -/

/-- All is put out if and only if no print is at fault. -/
theorem putOut_isWhole_iff {ps : List Print} :
    (putOut ps).2 = true ↔ ∀ p ∈ ps, p.isOk = true := by
  induction ps with
  | nil => simp [putOut]
  | cons p ps ih =>
      rw [List.forall_mem_cons, ← ih]
      cases p with
      | error e => simp [putOut, Except.isOk, Except.toBool]
      | ok s => simp [putOut, Except.isOk, Except.toBool]

private theorem print_isOk_iff {c : Console} {s : String} :
    (c.print s).isOk = true ↔ (c.read s).isSome = true := by
  rw [Console.print]
  cases c.read s with
  | none => simp [Except.isOk, Except.toBool]
  | some t => simp [Except.isOk, Except.toBool]

/-- A print with numbers in it is at fault for one that cannot be written, or for its markup. -/
theorem printed_isOk_iff {c : Console} {numbers : List Int} {s : String} :
    (printed c numbers s).isOk = true ↔
      (∀ n ∈ numbers, isWritable n = true) ∧ (c.read s).isSome = true := by
  rw [printed, ← List.all_eq_true]
  by_cases h : numbers.all isWritable = true
  · rw [if_pos h, print_isOk_iff, and_iff_right h]
  · rw [if_neg h]
    simp [Except.isOk, Except.toBool, h]

/-! ## Numbers -/

private theorem mem_natText {n : Nat} {c : Char} (h : c ∈ (natText n).toList) :
    c.isDigit = true := by
  rw [natText, String.toList_ofList] at h
  exact isDigit_of_mem_digitsOf h

private theorem isBareChar_of_isDigit {c : Char} (h : c.isDigit = true) :
    isBareChar c = true ∧ c ≠ ':' := by
  have hmem : c ∈ "0123456789".toList := by
    rw [Char.isDigit] at h
    simp only [ge_iff_le, Bool.and_eq_true, decide_eq_true_eq] at h
    have hle : 48 ≤ c.val.toNat := h.1
    have hge : c.val.toNat ≤ 57 := h.2
    have hchar : c = Char.ofNat c.val.toNat := (Char.ofNat_toNat c).symm
    rw [hchar]
    generalize c.val.toNat = n at hle hge
    interval_cases n <;> decide
  have hall : "0123456789".toList.all (fun c => isBareChar c && c != ':') = true := by
    decide +kernel
  simpa using List.all_eq_true.1 hall c hmem

/-- A text that can stand anywhere in a line without adding markup to it. -/
def IsNeutral (s : String) : Prop := s.toList.all isBareChar = true ∧ ':' ∉ s.toList

instance (s : String) : Decidable (IsNeutral s) := inferInstanceAs (Decidable (_ ∧ _))

/-- A neutral text is bare. -/
theorem IsNeutral.isBare {s : String} (h : IsNeutral s) : IsBare s :=
  ⟨h.1, by rw [List.count_eq_zero_of_not_mem h.2]; exact Nat.zero_le 1⟩

/-- Two neutral texts are one neutral text. -/
theorem IsNeutral.append {s t : String} (hs : IsNeutral s) (ht : IsNeutral t) :
    IsNeutral (s ++ t) := by
  rw [IsNeutral, String.toList_append, List.all_append, hs.1, ht.1, List.mem_append, not_or]
  exact ⟨rfl, hs.2, ht.2⟩

private theorem isNeutral_natText (n : Nat) : IsNeutral (natText n) :=
  ⟨List.all_eq_true.2 fun _ hc => (isBareChar_of_isDigit (mem_natText hc)).1,
    fun hc => (isBareChar_of_isDigit (mem_natText hc)).2 rfl⟩

private theorem isNeutral_intText (n : Int) : IsNeutral (intText n) := by
  cases n with
  | ofNat n => exact isNeutral_natText n
  | negSucc n => exact IsNeutral.append (by decide) (isNeutral_natText _)

private theorem isNeutral_roundedText (x : Float) : IsNeutral (Decimal.roundedText x) := by
  rw [Decimal.roundedText]
  split
  · decide
  · rename_i negative _
    cases negative
    · decide
    · decide
  · rename_i negative b _
    refine .append ?_ (isNeutral_natText _)
    cases negative
    · decide
    · decide

private theorem isNeutral_lineRange (ch : Change) : IsNeutral (lineRange ch) :=
  ((isNeutral_intText _).append (by decide)).append (isNeutral_intText _)

/-! ## What comes after the table -/

/-- The numbers of the totals. -/
def totalNumbers (r : Run) : List Int :=
  [r.result.analyzedFiles.length, r.result.skippedFiles.length, r.result.changes.length,
    r.summary.prodUnits, r.summary.prodAdded, r.summary.prodRemoved, r.summary.totalAdded,
    r.summary.totalRemoved, r.summary.weightedScore]

section Lines

variable {c : Console} {IsSign : String → Prop} (hc : c.ReadsMarkup IsSign)

include hc

private theorem read_styled (style : String) {text back : String} (hstyle : style ∈ styles)
    (htext : IsBare text) (hback : IsBare back) :
    (c.read (styled style text ++ back)).isSome = true := by
  have h := hc.styled style hstyle "" text back (by decide) htext hback
  rw [String.empty_append] at h
  rw [h]
  rfl

private theorem print_isOk (style text : String) (hstyle : style ∈ styles) (htext : IsBare text) :
    (c.print (styled style text)).isOk = true := by
  have hempty : IsBare "" := by decide
  have h := read_styled hc style hstyle htext hempty
  rw [String.append_empty] at h
  exact print_isOk_iff.2 h

private theorem labelled_isOk_iff (label gap : String) {n : Int} (hlabel : IsBare (label ++ ":"))
    (hgap : IsNeutral gap) : (labelled c label gap n).isOk = true ↔ isWritable n = true := by
  have hread := read_styled hc "dim" (by decide) hlabel
    (hgap.append (isNeutral_intText n)).isBare
  rw [← String.append_assoc] at hread
  rw [labelled, printed_isOk_iff, and_iff_left hread, List.forall_mem_singleton]

private theorem labelledLines_isOk_iff (label gap : String) {added removed : Int}
    (hlabel : IsBare (label ++ ":")) (hgap : IsNeutral gap) :
    (labelledLines c label gap added removed).isOk = true ↔
      isWritable added = true ∧ isWritable removed = true := by
  have hlines : IsNeutral (gap ++ ("+" ++ (intText added ++ (" -" ++ intText removed)))) :=
    hgap.append (.append (by decide) (.append (isNeutral_intText added)
      (.append (by decide) (isNeutral_intText removed))))
  have hread := read_styled hc "dim" (by decide) hlabel hlines.isBare
  simp only [← String.append_assoc] at hread
  rw [labelledLines, printed_isOk_iff, and_iff_left hread]
  simp

private theorem totals_isOk_iff (r : Run) :
    (∀ p ∈ totals c r, p.isOk = true) ↔ ∀ n ∈ totalNumbers r, isWritable n = true := by
  have hduration : (c.print (styled "dim" "Duration:" ++ "         "
      ++ Decimal.roundedText r.result.durationMs ++ "ms")).isOk = true := by
    have hlabel : IsBare "Duration:" := by decide
    have hgap : IsNeutral "         " := by decide
    have hunit : IsNeutral "ms" := by decide
    have hread := read_styled hc "dim" (by decide) hlabel
      (hgap.append ((isNeutral_roundedText r.result.durationMs).append hunit)).isBare
    simp only [← String.append_assoc] at hread
    exact print_isOk_iff.2 hread
  have hempty : (emptyLine c).isOk = true := rfl
  simp only [totals, totalNumbers, List.forall_mem_cons, List.not_mem_nil, hempty, hduration,
    labelled_isOk_iff hc "Files analysed" "   " (by decide) (by decide),
    labelled_isOk_iff hc "Files skipped" "    " (by decide) (by decide),
    labelled_isOk_iff hc "Changes" "          " (by decide) (by decide),
    labelled_isOk_iff hc "Production units" " " (by decide) (by decide),
    labelledLines_isOk_iff hc "Production lines" " " (by decide) (by decide),
    labelledLines_isOk_iff hc "All lines" "        " (by decide) (by decide),
    labelled_isOk_iff hc "Weighted score" "   " (by decide) (by decide)]
  simp [and_assoc]

/-- Errors are escaped, so none of them can fail. -/
theorem warning_isOk (message : String) : (warning c message).isOk = true :=
  print_isOk_iff.2 (hc.escaped "yellow" (by decide) "⚠" "  " message (by decide +kernel) (by decide))

/-- The limits that are checked have lines that can be read. -/
theorem read_violationText {v : Violation} (h : ∃ l : Limit, v.limit = l.text) :
    (c.read (violationText v)).isSome = true := by
  obtain ⟨l, hl⟩ := h
  have hlabel : IsNeutral (limitLabel v.limit) := by
    rw [hl]
    cases l <;> decide +kernel
  have hback : IsBare (" " ++ (limitLabel v.limit ++ (": " ++ (intText v.actual ++ (" > "
      ++ intText v.maximum))))) := by
    have hnumbers : IsNeutral (intText v.actual ++ (" > " ++ intText v.maximum)) :=
      (isNeutral_intText _).append (.append (by decide) (isNeutral_intText _))
    have hcolon : IsBare (": " ++ (intText v.actual ++ (" > " ++ intText v.maximum))) :=
      .append (by decide) hnumbers.isBare hnumbers.2
    have hfront : IsNeutral (" " ++ limitLabel v.limit) := .append (by decide) hlabel
    rw [← String.append_assoc]
    refine ⟨?_, ?_⟩
    · rw [String.toList_append, List.all_append, hfront.1, hcolon.1]
      rfl
    · rw [String.toList_append, List.count_append, List.count_eq_zero_of_not_mem hfront.2,
        Nat.zero_add]
      exact hcolon.2
  have h := hc.styled "red" (by decide) "  " "•" _ (by decide) (by decide +kernel) hback
  simp only [← String.append_assoc] at h
  rw [violationText, h]
  rfl

private theorem verdict_isOk_iff (violations : List Violation) :
    (∀ p ∈ verdict c violations, p.isOk = true) ↔
      (∀ n ∈ violations.flatMap (fun v => [v.actual, v.maximum]), isWritable n = true) ∧
      ∀ v ∈ violations, (c.read (violationText v)).isSome = true := by
  have hempty : (emptyLine c).isOk = true := rfl
  have hpassed := print_isOk hc "bold green" "✅ PASSED — change is within configured limits."
    (by decide) (by decide +kernel)
  have hexceeded := print_isOk hc "bold red" "❌ LIMITS EXCEEDED" (by decide) (by decide +kernel)
  have hlines : (∀ p ∈ violations.map (violation c), p.isOk = true) ↔
      (∀ n ∈ violations.flatMap (fun v => [v.actual, v.maximum]), isWritable n = true) ∧
      ∀ v ∈ violations, (c.read (violationText v)).isSome = true := by
    rw [List.forall_mem_map]
    simp only [violation, printed_isOk_iff, List.forall_mem_flatMap, ← forall_and]
  rw [verdict]
  cases violations with
  | nil => simp [hempty, hpassed]
  | cons v vs =>
      rw [if_neg (by simp), List.forall_mem_append, hlines]
      simp [hempty, hexceeded]

end Lines

/-! ## Rows -/

/-- The cells of a change, with a text for its path and one for its label. -/
def cells (file label : String) (ch : Change) : List String :=
  [file, lineRange ch, label, ch.kind.text, ch.unit.purpose.text, intText ch.added,
    intText ch.removed]

/-- What a console shows of a text. Of one that it cannot read it is nothing. -/
def shown (c : Console) (s : String) : String := (c.read s).getD ""

/-- The cells of a change with what its path and its label show. -/
def shownCells (c : Console) (ch : Change) : List String :=
  cells (shown c ch.file) (shown c (unitLabel ch.unit)) ch

section Rows

variable {c : Console} {IsSign : String → Prop} (hc : c.ReadsMarkup IsSign)

include hc

/-- The numbers of a row show as they are, so its cells are those of its path and its label. -/
theorem row?_eq (ch : Change) :
    row? c ch = do
      let file ← c.read ch.file
      let label ← c.read (unitLabel ch.unit)
      return cells file label ch := by
  rw [row?, hc.bare (isNeutral_lineRange ch).isBare, hc.bare (isNeutral_intText _).isBare,
    hc.bare (isNeutral_intText _).isBare]
  rfl

private theorem row?_isSome_iff (ch : Change) :
    (row? c ch).isSome = true ↔
      (c.read ch.file).isSome = true ∧ (c.read (unitLabel ch.unit)).isSome = true := by
  rw [row?_eq hc]
  cases c.read ch.file with
  | none => simp
  | some file =>
      cases c.read (unitLabel ch.unit) with
      | none => simp
      | some label => simp

private theorem row?_eq_shownCells {ch : Change} (h : (row? c ch).isSome = true) :
    row? c ch = some (shownCells c ch) := by
  rw [row?_eq hc] at h ⊢
  rw [shownCells, shown, shown]
  cases hfile : c.read ch.file with
  | none =>
      rw [hfile] at h
      simp at h
  | some file =>
      cases hlabel : c.read (unitLabel ch.unit) with
      | none =>
          rw [hfile, hlabel] at h
          simp at h
      | some label => rfl

end Rows

private theorem mapM_isSome_iff {α β : Type} {f : α → Option β} {xs : List α} :
    (xs.mapM f).isSome = true ↔ ∀ x ∈ xs, (f x).isSome = true := by
  induction xs with
  | nil => simp
  | cons x xs ih =>
      rw [List.mapM_cons, List.forall_mem_cons, ← ih]
      cases f x with
      | none => simp
      | some y =>
          cases xs.mapM f with
          | none => simp
          | some ys => simp

private theorem mapM_eq_some_map {α β : Type} {f : α → Option β} {g : α → β} {xs : List α}
    (h : ∀ x ∈ xs, f x = some (g x)) : xs.mapM f = some (xs.map g) := by
  induction xs with
  | nil => rfl
  | cons x xs ih =>
      obtain ⟨hx, hxs⟩ := List.forall_mem_cons.1 h
      rw [List.mapM_cons, hx, ih hxs]
      rfl

/-- The table fails if and only if a number in it cannot be written, or a text in it cannot be
    read. -/
theorem changeTable_isOk_iff {c : Console} (changes : List Change) :
    (changeTable c changes).isOk = true ↔
      (∀ n ∈ changes.flatMap rowNumbers, isWritable n = true) ∧
      ∀ ch ∈ changes, (row? c ch).isSome = true := by
  rw [changeTable, ← mapM_isSome_iff, ← List.all_eq_true]
  by_cases h : (changes.flatMap rowNumbers).all isWritable = true
  · rw [if_pos h, and_iff_right h]
    cases changes.mapM (row? c) with
    | none => simp [Except.isOk, Except.toBool]
    | some rows => simp [Except.isOk, Except.toBool]
  · rw [if_neg h]
    simp [Except.isOk, Except.toBool, h]

/-! ## Labels -/

private theorem unitLabel_of_none {u : CodeUnit} (h : u.kind = none) :
    unitLabel u = "(outside any unit)" := by
  rw [unitLabel, h]

private theorem unitLabel_of_kind {u : CodeUnit} {kind : UnitKind} (h : u.kind = some kind) :
    unitLabel u
      = spaced kind.text ++ " " ++ (if u.name.isEmpty then "<anonymous>" else u.name) := by
  rw [unitLabel, h]

private theorem printable_unitLabel {u : CodeUnit} (h : Printable u.name) :
    Printable (unitLabel u) := by
  cases hkind : u.kind with
  | none =>
      rw [unitLabel_of_none hkind]
      decide +kernel
  | some kind =>
      rw [unitLabel_of_kind hkind]
      refine Printable.append (Printable.append ?_ (by decide +kernel)) ?_
      · cases kind <;> decide +kernel
      · split
        · decide +kernel
        · exact h

/-! ## The report -/

/-- All numbers in a report. -/
def numbers (r : Run) : List Int :=
  r.result.changes.flatMap rowNumbers ++ totalNumbers r
    ++ r.violations.flatMap fun v => [v.actual, v.maximum]

/-- Every number in a report can be written. -/
def IsWritable (r : Run) : Prop := ∀ n ∈ numbers r, isWritable n = true

/-- The console is wide enough for the table of a report: its rows have a line each. -/
def HasRoomFor (c : Console) (r : Run) : Prop :=
  ∀ rows, r.result.changes.mapM (row? c) = some rows →
    HasLines (c.table "Rust Diff Analysis" columns rows) rows

/-- The console can read every path, every label and the line of every limit. -/
def CanRead (c : Console) (r : Run) : Prop :=
  (∀ ch ∈ r.result.changes,
    (c.read ch.file).isSome = true ∧ (c.read (unitLabel ch.unit)).isSome = true) ∧
  ∀ v ∈ r.violations, (c.read (violationText v)).isSome = true

/-- The report has a line for every change, in their order, with these cells. -/
def HasRows (c : Console) (r : Run) (row : Change → List String) : Prop :=
  HasLines (putOut (prints r c)).1 (r.result.changes.map row)

/-- A text shows as it is: there are neither tags nor escapes in it, nor words that stand for
    signs. -/
def IsVerbatim (IsSign : String → Prop) (s : String) : Prop :=
  Printable s ∧ Markup.IsPlain s.toList ∧ ¬HasSign IsSign s

section Report

variable {c : Console} {IsSign : String → Prop} (hc : c.ReadsMarkup IsSign) {r : Run}
  (hdetails : r.showsDetails = true) (hchanges : r.result.changes ≠ [])

include hdetails hchanges in
private theorem opening_eq (c : Console) :
    opening c r = [emptyLine c, changeTable c r.result.changes] := by
  rw [opening, if_neg (by simpa using hchanges), if_pos hdetails]

include hc hdetails hchanges

/-- A report with a table comes to its end if and only if all its numbers can be written, and every
    path, every label and the line of every limit can be read. -/
theorem prints_isWhole_iff : (putOut (prints r c)).2 = true ↔ IsWritable r ∧ CanRead c r := by
  have hempty : (emptyLine c).isOk = true := rfl
  have herrors : ∀ p ∈ r.result.errors.map (warning c), p.isOk = true :=
    List.forall_mem_map.2 fun message _ => warning_isOk hc message
  rw [putOut_isWhole_iff, prints, opening_eq hdetails hchanges]
  simp only [List.forall_mem_append, List.forall_mem_cons, List.not_mem_nil, false_implies,
    implies_true, and_true, hempty, true_and, changeTable_isOk_iff, row?_isSome_iff hc,
    totals_isOk_iff hc, verdict_isOk_iff hc, IsWritable, CanRead, numbers]
  tauto

/-- A report that comes to its end has a line for every change, in their order, with what the path
    and the label of the change show. -/
theorem hasRows_of_isWhole (hroom : HasRoomFor c r) (hwhole : (putOut (prints r c)).2 = true) :
    HasRows c r (shownCells c) := by
  obtain ⟨hwritable, hread, -⟩ := (prints_isWhole_iff hc hdetails hchanges).1 hwhole
  have hrows : r.result.changes.mapM (row? c) = some (r.result.changes.map (shownCells c)) :=
    mapM_eq_some_map fun ch hch =>
      row?_eq_shownCells hc ((row?_isSome_iff hc ch).2 (hread ch hch))
  have hnumbers : (r.result.changes.flatMap rowNumbers).all isWritable = true :=
    List.all_eq_true.2 fun n hn => hwritable n
      (List.mem_append_left _ (List.mem_append_left _ hn))
  have htable : changeTable c r.result.changes = .ok (c.table "Rust Diff Analysis" columns
      (r.result.changes.map (shownCells c))) := by
    rw [changeTable, if_pos hnumbers, hrows]
  rw [HasRows, prints, opening_eq hdetails hchanges, htable, List.append_assoc, List.append_assoc,
    List.cons_append, List.cons_append, List.nil_append]
  generalize totals c r ++ (r.result.errors.map (warning c) ++ verdict c r.violations) = rest
  have hlines := (hroom _ hrows).within (c.line "") (putOut rest).1
  simpa only [emptyLine, putOut, String.append_assoc] using hlines

/-- A report on paths and labels that show as they are comes to its end, if its numbers can be
    written, whatever its errors are. -/
theorem isWhole_of_isVerbatim (hwritable : IsWritable r)
    (hverbatim : ∀ ch ∈ r.result.changes,
      IsVerbatim IsSign ch.file ∧ IsVerbatim IsSign (unitLabel ch.unit))
    (hlimits : ∀ v ∈ r.violations, ∃ l : Limit, v.limit = l.text) :
    (putOut (prints r c)).2 = true := by
  have hread : ∀ s, IsVerbatim IsSign s → (c.read s).isSome = true := by
    rintro s ⟨hprintable, hplain, hsign⟩
    rw [hc.plain s hprintable hplain hsign]
    rfl
  rw [prints_isWhole_iff hc hdetails hchanges]
  exact ⟨hwritable, fun ch hch => (hverbatim ch hch).imp (hread _) (hread _),
    fun v hv => read_violationText hc (hlimits v hv)⟩

end Report

/-! ## The standard console -/

/-- A neutral text is on one line. -/
theorem IsNeutral.newline_not_mem {s : String} (h : IsNeutral s) : '\n' ∉ s.toList :=
  h.isBare.printable.newline_not_mem

private theorem newline_not_mem_cells {file label : String} (hfile : '\n' ∉ file.toList)
    (hlabel : '\n' ∉ label.toList) (ch : Change) :
    ∀ s ∈ cells file label ch, '\n' ∉ s.toList := by
  have hkind : '\n' ∉ ch.kind.text.toList := by
    cases ch.kind <;> decide
  have hpurpose : '\n' ∉ ch.unit.purpose.text.toList := by
    cases ch.unit.purpose <;> decide
  intro s hs
  simp only [cells, List.mem_cons, List.not_mem_nil, or_false] at hs
  rcases hs with rfl | rfl | rfl | rfl | rfl | rfl | rfl
  · exact hfile
  · exact (isNeutral_lineRange ch).newline_not_mem
  · exact hlabel
  · exact hkind
  · exact hpurpose
  · exact (isNeutral_intText _).newline_not_mem
  · exact (isNeutral_intText _).newline_not_mem

private theorem newline_not_mem_shown {s : String} (h : Printable s) :
    '\n' ∉ (shown .standard s).toList := by
  intro hmem
  rw [shown] at hmem
  cases hread : Console.standard.read s with
  | none =>
      rw [hread] at hmem
      exact absurd hmem List.not_mem_nil
  | some t =>
      rw [hread] at hmem
      exact h.newline_not_mem (Markup.mem_of_mem_strip? hread hmem)

/-- The standard console is as wide as need be. -/
theorem hasRoomFor_standard {r : Run}
    (hprintable : ∀ ch ∈ r.result.changes, Printable ch.file ∧ Printable ch.unit.name) :
    HasRoomFor .standard r := by
  intro rows hrows
  have hread : ∀ ch ∈ r.result.changes, (row? .standard ch).isSome = true :=
    mapM_isSome_iff.1 (by rw [hrows]; rfl)
  have hshown : r.result.changes.mapM (row? .standard)
      = some (r.result.changes.map (shownCells .standard)) :=
    mapM_eq_some_map fun ch hch => row?_eq_shownCells standard_readsMarkup (hread ch hch)
  obtain rfl := Option.some.inj (hrows.symm.trans hshown)
  refine standard_hasLines _ (List.forall_mem_map.2 fun _ _ => rfl)
    (List.forall_mem_map.2 fun ch hch => ?_)
  obtain ⟨hfile, hname⟩ := hprintable ch hch
  exact newline_not_mem_cells (newline_not_mem_shown hfile)
    (newline_not_mem_shown (printable_unitLabel hname)) ch

/-! ## What the report shows -/

/-- **What a report shows of its changes** on a console that reads markup and is wide enough. It
    comes to its end if and only if all its numbers can be written, and every path, every label and
    the line of every limit can be read. Then it has a line for every change, with what the path and
    the label show. One with a tag or an escape in it does not show as it is, and one with a closing
    tag before all others cannot be read. Where there are no tags, escapes and signs, the report
    comes to its end and shows every path and every label as it is. -/
theorem report_shows_changes {c : Console} {IsSign : String → Prop} (hc : c.ReadsMarkup IsSign)
    (r : Run) (hroom : HasRoomFor c r) (hdetails : r.showsDetails = true)
    (hchanges : r.result.changes ≠ []) :
    ((putOut (prints r c)).2 = true ↔ IsWritable r ∧ CanRead c r) ∧
    ((putOut (prints r c)).2 = true → HasRows c r (shownCells c)) ∧
    (∀ ch ∈ r.result.changes, ∀ s ∈ [ch.file, unitLabel ch.unit],
      (¬Markup.IsPlain s.toList → c.read s ≠ some s) ∧
      ∀ body, (Markup.tags s.toList).head? = some ('/' :: body) →
        (putOut (prints r c)).2 = false) ∧
    (IsWritable r →
      (∀ ch ∈ r.result.changes,
        IsVerbatim IsSign ch.file ∧ IsVerbatim IsSign (unitLabel ch.unit)) →
      (∀ v ∈ r.violations, ∃ l : Limit, v.limit = l.text) →
      (putOut (prints r c)).2 = true ∧
        HasRows c r fun ch => cells ch.file (unitLabel ch.unit) ch) := by
  have hwhole_iff := prints_isWhole_iff hc hdetails hchanges
  refine ⟨hwhole_iff, hasRows_of_isWhole hc hdetails hchanges hroom, ?_, ?_⟩
  · intro ch hch s hs
    refine ⟨hc.marked s, fun body hbody => ?_⟩
    have hunread := hc.closing s body hbody
    rw [← Bool.not_eq_true, hwhole_iff]
    rintro ⟨-, hread, -⟩
    obtain ⟨hfile, hlabel⟩ := hread ch hch
    rcases List.mem_pair.1 hs with rfl | rfl
    · rw [hunread] at hfile
      cases hfile
    · rw [hunread] at hlabel
      cases hlabel
  · intro hwritable hverbatim hlimits
    have hwhole := isWhole_of_isVerbatim hc hdetails hchanges hwritable hverbatim hlimits
    refine ⟨hwhole, ?_⟩
    have hrows := hasRows_of_isWhole hc hdetails hchanges hroom hwhole
    have hcells : r.result.changes.map (shownCells c)
        = r.result.changes.map fun ch => cells ch.file (unitLabel ch.unit) ch := by
      refine List.map_congr_left fun ch hch => ?_
      obtain ⟨⟨hprintable, hplain, hsign⟩, hprintable', hplain', hsign'⟩ := hverbatim ch hch
      rw [shownCells, shown, shown, hc.plain _ hprintable hplain hsign,
        hc.plain _ hprintable' hplain' hsign']
      rfl
    rwa [HasRows, ← hcells]

/-- A change of an implementation block. -/
def blockChange (file name : String) : Change where
  file
  unit :=
    { kind := some .implementationBlock
      name
      visibility := .inside
      span := ⟨1, 3, by decide, by decide⟩
      purpose := .production }
  kind := .modified
  added := 1
  removed := 0

/-- The run of an analysis with one change. -/
def oneChange (ch : Change) : Run where
  result := { changes := [ch], files := [{ path := ch.file }], errors := [], durationMs := 0 }
  summary := summarize [] [ch]
  violations := []
  showsDetails := true

instance (r : Run) : Decidable (IsWritable r) :=
  List.decidableBAll (fun n => isWritable n = true) (numbers r)

/-- A change whose path and label have brackets and no tag. -/
theorem report_shows_changes_of_plain :
    (putOut (prints (oneChange (blockChange "src/[1].rs" "Grid<[T; 2]>")))).2 = true ∧
      HasRows .standard (oneChange (blockChange "src/[1].rs" "Grid<[T; 2]>")) fun ch =>
        cells ch.file (unitLabel ch.unit) ch := by
  have hroom : HasRoomFor .standard (oneChange (blockChange "src/[1].rs" "Grid<[T; 2]>")) :=
    hasRoomFor_standard (List.forall_mem_singleton.2 ⟨by decide +kernel, by decide +kernel⟩)
  have h := report_shows_changes standard_readsMarkup _ hroom rfl (List.cons_ne_nil _ _)
  refine h.2.2.2 (by decide +kernel) (List.forall_mem_singleton.2 ⟨?_, ?_⟩)
    fun v hv => absurd hv List.not_mem_nil
  · exact ⟨by decide +kernel, by decide +kernel, fun ⟨_, _, _, _, h⟩ => h⟩
  · exact ⟨by decide +kernel, by decide +kernel, fun ⟨_, _, _, _, h⟩ => h⟩

/-- The report on a file with brackets in its name and an array in the name of a unit comes to its
    end, and its row has neither of them. The report on a path with a tag that ends nothing does
    not come to its end. -/
theorem bracketed_names_are_lost :
    (Printable "src/[id].rs" ∧ Printable "Grid<[u8; 2]>" ∧ Printable "src/[/].rs") ∧
      (putOut (prints (oneChange (blockChange "src/[id].rs" "Grid<[u8; 2]>")))).2 = true ∧
      HasRows .standard (oneChange (blockChange "src/[id].rs" "Grid<[u8; 2]>"))
        (shownCells .standard) ∧
      shownCells .standard (blockChange "src/[id].rs" "Grid<[u8; 2]>")
        = ["src/.rs", "1-3", "implementation block Grid<>", "modified", "production", "1", "0"] ∧
      (putOut (prints (oneChange (blockChange "src/[/].rs" "Grid")))).2 = false := by
  have hfile : Printable "src/[id].rs" := by decide +kernel
  have hname : Printable "Grid<[u8; 2]>" := by decide +kernel
  have hwhole :
      (putOut (prints (oneChange (blockChange "src/[id].rs" "Grid<[u8; 2]>")))).2 = true := by
    rw [prints_isWhole_iff standard_readsMarkup rfl (List.cons_ne_nil _ _)]
    refine ⟨by decide +kernel, List.forall_mem_singleton.2 ⟨?_, ?_⟩,
      fun v hv => absurd hv List.not_mem_nil⟩
    · decide +kernel
    · decide +kernel
  refine ⟨⟨hfile, hname, by decide +kernel⟩, hwhole, ?_, by decide +kernel, ?_⟩
  · exact hasRows_of_isWhole standard_readsMarkup rfl (List.cons_ne_nil _ _)
      (hasRoomFor_standard (List.forall_mem_singleton.2 ⟨hfile, hname⟩)) hwhole
  · have hunread : Console.standard.read "src/[/].rs" = none := by decide +kernel
    rw [← Bool.not_eq_true, prints_isWhole_iff standard_readsMarkup rfl (List.cons_ne_nil _ _)]
    rintro ⟨-, hread, -⟩
    have hstops := (hread _ List.mem_cons_self).1
    rw [show (blockChange "src/[/].rs" "Grid").file = "src/[/].rs" from rfl, hunread] at hstops
    cases hstops

end DiffGauge.Report.Terminal
