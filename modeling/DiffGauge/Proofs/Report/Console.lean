import DiffGauge.Proofs.Text.Markup
import DiffGauge.Report.Terminal
import DiffGauge.Text.Printable
import Mathlib

/-!
# What is taken for granted of a console

A report is written for a console that reads tags in brackets and lays out tables. Nothing else is
said of it: which words between colons it takes for signs, which styles there are besides those of
the report, and how the frame of a table looks is open.

* `ReadsMarkup` says how texts are read, and `HasLines` what the rows of a table look like;
* `standard_readsMarkup` and `standard_hasLines` find both in the standard console.
-/

namespace DiffGauge.Report

open Text

/-! ## Texts -/

/-- A text of printable characters. -/
def Printable (s : String) : Prop := ∀ c ∈ s.toList, isPrintable c = true

instance (s : String) : Decidable (Printable s) :=
  List.decidableBAll (fun c => isPrintable c = true) s.toList

/-- Two printable texts are one printable text. -/
theorem Printable.append {s t : String} (hs : Printable s) (ht : Printable t) :
    Printable (s ++ t) := by
  intro c hc
  rw [String.toList_append] at hc
  rcases List.mem_append.1 hc with hc | hc
  · exact hs c hc
  · exact ht c hc

/-- A printable text is on one line. -/
theorem Printable.newline_not_mem {s : String} (h : Printable s) : '\n' ∉ s.toList :=
  fun hmem => absurd (h '\n' hmem) (by decide)

private theorem Printable.not_dropped {s : String} (h : Printable s) :
    ∀ c ∈ s.toList, Markup.isDropped c = false := by
  intro c hc
  by_contra hdropped
  have hprintable := h c hc
  simp only [Markup.isDropped, Bool.not_eq_false, Bool.or_eq_true, beq_iff_eq] at hdropped
  rcases hdropped with (((rfl | rfl) | rfl) | rfl) | rfl <;> exact absurd hprintable (by decide)

/-- A word between two colons of the text stands for a sign. -/
def HasSign (IsSign : String → Prop) (s : String) : Prop :=
  ∃ front word back, s.toList = front ++ ':' :: (word ++ ':' :: back) ∧
    IsSign (String.ofList word)

/-- A character that is no part of any markup, unless it is a colon. -/
def isBareChar (c : Char) : Bool := isPrintable c && c != '[' && c != ']' && c != '\\'

/-- A text in which there can be no markup: no bracket, no backslash, and no two colons. -/
def IsBare (s : String) : Prop := s.toList.all isBareChar = true ∧ s.toList.count ':' ≤ 1

instance (s : String) : Decidable (IsBare s) := inferInstanceAs (Decidable (_ ∧ _))

/-- A bare text has no bracket and no backslash in it. -/
theorem IsBare.char {s : String} (h : IsBare s) {c : Char} (hc : c ∈ s.toList) :
    isPrintable c = true ∧ c ≠ '[' ∧ c ≠ ']' ∧ c ≠ '\\' := by
  have hbare := List.all_eq_true.1 h.1 c hc
  simpa [isBareChar, and_assoc] using hbare

/-- A bare text is printable. -/
theorem IsBare.printable {s : String} (h : IsBare s) : Printable s := fun _ hc => (h.char hc).1

private theorem IsBare.isPlain {s : String} (h : IsBare s) : Markup.IsPlain s.toList := by
  have hlead : ∀ c ∈ s.toList, c ≠ '[' ∧ c ≠ '\\' := fun c hc =>
    ⟨(h.char hc).2.1, (h.char hc).2.2.2⟩
  have hplain := (Markup.isPlain_append_iff hlead).2 Markup.isPlain_nil
  rwa [List.append_nil] at hplain

private theorem IsBare.not_hasSign {s : String} (h : IsBare s) (IsSign : String → Prop) :
    ¬HasSign IsSign s := by
  rintro ⟨front, word, back, hs, -⟩
  have hcount := h.2
  rw [hs, List.count_append, List.count_cons_self, List.count_append, List.count_cons_self] at hcount
  omega

/-- Only one of two texts may have a colon. -/
theorem IsBare.append {s t : String} (hs : IsBare s) (ht : IsBare t)
    (hcolon : ':' ∉ t.toList) : IsBare (s ++ t) := by
  rw [IsBare, String.toList_append, List.all_append, List.count_append,
    List.count_eq_zero_of_not_mem hcolon, Nat.add_zero, hs.1, ht.1]
  exact ⟨rfl, hs.2⟩

/-! ## Reading -/

/-- The styles that a report uses. -/
def styles : List String := ["dim", "red", "yellow", "bold red", "bold green"]

/-- The console reads markup: what stands in brackets and begins like a tag is one, and is not
    shown, unless backslashes before it make it a text, and these are not shown then. `IsSign` holds
    of the words between colons that are shown as signs. -/
structure Console.ReadsMarkup (c : Console) (IsSign : String → Prop) : Prop where
  plain : ∀ s, Printable s → Markup.IsPlain s.toList → ¬HasSign IsSign s → c.read s = some s
  marked : ∀ s, ¬Markup.IsPlain s.toList → c.read s ≠ some s
  closing : ∀ s body, (Markup.tags s.toList).head? = some ('/' :: body) → c.read s = none
  styled : ∀ style ∈ styles, ∀ front text back, IsBare front → IsBare text → IsBare back →
    c.read (front ++ Terminal.styled style text ++ back) = some (front ++ text ++ back)
  escaped : ∀ style ∈ styles, ∀ text back s, IsBare text → IsBare back →
    (c.read (Terminal.styled style text ++ back ++ c.escape s)).isSome = true

/-- A bare text is read as it is. -/
theorem Console.ReadsMarkup.bare {c : Console} {IsSign : String → Prop}
    (hc : c.ReadsMarkup IsSign) {s : String} (hs : IsBare s) : c.read s = some s :=
  hc.plain s hs.printable hs.isPlain (hs.not_hasSign IsSign)

/-! ## Tables -/

/-- What stands between the cells of a row: blanks and bars. -/
def IsGap (s : String) : Prop := s ≠ "" ∧ s.toList.all (fun c => c == ' ' || c == '│') = true

/-- A line of a table has these cells, one after the other and apart from each other. -/
inductive HoldsCells : String → List String → Prop where
  | last {gap : String} : IsGap gap → HoldsCells (gap ++ "\n") []
  | cell {gap s rest : String} {cells : List String} :
      IsGap gap → HoldsCells rest cells → HoldsCells (gap ++ s ++ rest) (s :: cells)

/-- A text has a line for each of some rows, in their order, with its cells. -/
def HasLines (text : String) (rows : List (List String)) : Prop :=
  ∃ before lines after, text = before ++ "\n" ++ String.join lines ++ after ∧
    List.Forall₂ HoldsCells lines rows

/-- What has lines for some rows has them wherever it stands. -/
theorem HasLines.within {text : String} {rows : List (List String)} (h : HasLines text rows)
    (front back : String) : HasLines (front ++ text ++ back) rows := by
  obtain ⟨before, lines, after, rfl, hlines⟩ := h
  exact ⟨front ++ before, lines, after ++ back, by simp only [String.append_assoc], hlines⟩

end DiffGauge.Report

/-! ## The markup of the standard console -/

namespace DiffGauge.Text.Markup

/-- A text that is plain is shown as it is. -/
theorem strip?_of_isPlain {s : String} (hkept : ∀ c ∈ s.toList, isDropped c = false)
    (h : IsPlain s.toList) : strip? s = some s := by
  have hfilter : s.toList.filter (!isDropped ·) = s.toList := by
    rw [List.filter_eq_self]
    intro c hc
    rw [hkept c hc]
    rfl
  rw [strip?_eq, tags_of_isPlain h, plain_eq_self_iff.2 h, hfilter, String.ofList_toList]
  rfl

/-- A text with a tag or an escape is not shown as it is. -/
theorem strip?_ne_self {s : String} (h : ¬IsPlain s.toList) : strip? s ≠ some s := by
  intro hself
  rw [strip?_eq] at hself
  obtain ⟨-, -, hshown⟩ := Option.map_eq_some_iff.1 hself
  have hfilter : (plain s.toList).filter (!isDropped ·) = s.toList := by
    rw [← String.toList_inj, String.toList_ofList] at hshown
    exact hshown
  have hsublist : ((plain s.toList).filter (!isDropped ·)).Sublist (plain s.toList) :=
    List.filter_sublist
  rw [hfilter] at hsublist
  exact h (plain_eq_self_iff.1 ((plain_sublist _).antisymm hsublist))

/-- What is shown of a text stands in it. -/
theorem mem_of_mem_strip? {s t : String} (h : strip? s = some t) {c : Char}
    (hc : c ∈ t.toList) : c ∈ s.toList := by
  rw [strip?_eq] at h
  obtain ⟨-, -, rfl⟩ := Option.map_eq_some_iff.1 h
  rw [String.toList_ofList] at hc
  exact (plain_sublist _).subset (List.mem_of_mem_filter hc)

/-- A closing tag before all other tags closes nothing. -/
theorem strip?_of_closing {s : String} {body : List Char}
    (h : (tags s.toList).head? = some ('/' :: body)) : strip? s = none := by
  obtain ⟨back, hback⟩ := List.head?_eq_some_iff.1 h
  refine strip?_eq_none_iff.2
    ⟨[], '/' :: body, body.takeWhile (· != '='), back, [], hback, rfl, rfl, ?_⟩
  rw [closed?]
  split
  · rfl
  · rfl

/-- A text without brackets and backslashes adds nothing to the tags of what follows it. -/
theorem tags_append_of_bare {front : List Char} (h : ∀ c ∈ front, c ≠ '[' ∧ c ≠ '\\')
    (cs : List Char) : tags (front ++ cs) = tags cs := by
  induction front with
  | nil => rfl
  | cons c front ih =>
      obtain ⟨⟨hbracket, hslash⟩, hfront⟩ := List.forall_mem_cons.1 h
      exact (tagsAfter_char hslash hbracket _).trans (ih hfront)

/-- It is shown before what follows it. -/
theorem plain_append_of_bare {front : List Char} (h : ∀ c ∈ front, c ≠ '[' ∧ c ≠ '\\')
    (cs : List Char) : plain (front ++ cs) = front ++ plain cs := by
  induction front with
  | nil => rfl
  | cons c front ih =>
      obtain ⟨⟨hbracket, hslash⟩, hfront⟩ := List.forall_mem_cons.1 h
      rw [List.cons_append, plain, pieces_eq, piecesAfter_char hslash hbracket, List.cons_append,
        ← ih hfront]
      rfl

/-- A tag is not shown. -/
theorem plain_tag {body : List Char} (hbody : NoBracket body)
    (hopens : body.head?.any opensTag = true) (cs : List Char) :
    plain ('[' :: (body ++ ']' :: cs)) = plain cs := by
  rw [plain, pieces_eq, piecesAfter_tag (tagBody?_eq_some_iff.2 ⟨rfl, hbody, hopens⟩)]
  rfl

end DiffGauge.Text.Markup

namespace DiffGauge.Report

open Text

section Standard

/-- A style of a report is set by its tag, and ended by the closing one. -/
theorem stylesAfter?_of_mem {style : String} (h : style ∈ styles) :
    Markup.NoBracket style.toList ∧ style.toList.head?.any Markup.opensTag = true ∧
      Markup.stylesAfter? [] [style.toList, '/' :: style.toList] = some [] := by
  rw [styles] at h
  simp only [List.mem_cons, List.not_mem_nil, or_false] at h
  rcases h with rfl | rfl | rfl | rfl | rfl <;>
    exact ⟨by decide, by decide, by decide +kernel⟩

variable {style front text : String}

private theorem toList_styled (front style text : String) (cs : List Char) :
    (front ++ Terminal.styled style text).toList ++ cs
      = front.toList ++ '[' :: (style.toList ++ ']' :: (text.toList
        ++ '[' :: (('/' :: style.toList) ++ ']' :: cs))) := by
  simp [Terminal.styled, String.toList_append]

private theorem tags_styled (hstyle : style ∈ styles) (hfront : IsBare front) (htext : IsBare text)
    (cs : List Char) :
    Markup.tags ((front ++ Terminal.styled style text).toList ++ cs)
      = style.toList :: ('/' :: style.toList) :: Markup.tags cs := by
  obtain ⟨hbracket, hopens, -⟩ := stylesAfter?_of_mem hstyle
  have hcloses : Markup.NoBracket ('/' :: style.toList) :=
    Markup.NoBracket.append (by decide : Markup.NoBracket ['/']) hbracket
  rw [toList_styled,
    Markup.tags_append_of_bare fun c hc => ⟨(hfront.char hc).2.1, (hfront.char hc).2.2.2⟩,
    Markup.tags_tag hbracket hopens,
    Markup.tags_append_of_bare fun c hc => ⟨(htext.char hc).2.1, (htext.char hc).2.2.2⟩,
    Markup.tags_tag hcloses rfl]

private theorem plain_styled (hstyle : style ∈ styles) (hfront : IsBare front) (htext : IsBare text)
    (cs : List Char) :
    Markup.plain ((front ++ Terminal.styled style text).toList ++ cs)
      = front.toList ++ (text.toList ++ Markup.plain cs) := by
  obtain ⟨hbracket, hopens, -⟩ := stylesAfter?_of_mem hstyle
  have hcloses : Markup.NoBracket ('/' :: style.toList) :=
    Markup.NoBracket.append (by decide : Markup.NoBracket ['/']) hbracket
  rw [toList_styled,
    Markup.plain_append_of_bare fun c hc => ⟨(hfront.char hc).2.1, (hfront.char hc).2.2.2⟩,
    Markup.plain_tag hbracket hopens,
    Markup.plain_append_of_bare fun c hc => ⟨(htext.char hc).2.1, (htext.char hc).2.2.2⟩,
    Markup.plain_tag hcloses rfl]

/-- The standard console reads markup. It knows no signs. -/
theorem standard_readsMarkup : Console.standard.ReadsMarkup fun _ => False where
  plain := fun _ hprintable hplain _ => Markup.strip?_of_isPlain hprintable.not_dropped hplain
  marked := fun _ => Markup.strip?_ne_self
  closing := fun _ _ => Markup.strip?_of_closing
  styled := by
    intro style hstyle front text back hfront htext hback
    obtain ⟨-, -, hstyles⟩ := stylesAfter?_of_mem hstyle
    have htags := tags_styled hstyle hfront htext back.toList
    have hplain := plain_styled hstyle hfront htext back.toList
    rw [Markup.tags_of_isPlain hback.isPlain, ← String.toList_append] at htags
    rw [Markup.plain_eq_self_iff.2 hback.isPlain, ← String.toList_append] at hplain
    have hkept : (front.toList ++ (text.toList ++ back.toList)).filter (!Markup.isDropped ·)
        = front.toList ++ (text.toList ++ back.toList) := by
      rw [List.filter_eq_self]
      intro c hc
      simp only [List.mem_append] at hc
      rcases hc with hc | hc | hc
      · rw [hfront.printable.not_dropped c hc, Bool.not_false]
      · rw [htext.printable.not_dropped c hc, Bool.not_false]
      · rw [hback.printable.not_dropped c hc, Bool.not_false]
    show Markup.strip? _ = _
    rw [Markup.strip?_eq, htags, hplain, hstyles, hkept, Option.map_some]
    simp [String.ofList_append, String.append_assoc]
  escaped := by
    intro style hstyle text back s htext hback
    obtain ⟨-, -, hstyles⟩ := stylesAfter?_of_mem hstyle
    have hempty : IsBare "" := by decide
    have htags := tags_styled hstyle hempty htext (back.toList ++ (Markup.escape s).toList)
    rw [Markup.tags_append_of_bare fun c hc => ⟨(hback.char hc).2.1, (hback.char hc).2.2.2⟩,
      Markup.tags_escape, ← String.toList_append, ← String.toList_append, String.empty_append,
      ← String.append_assoc] at htags
    show (Markup.strip? _).isSome = true
    rw [Markup.strip?_eq]
    show (Option.map _ (Markup.stylesAfter? [] (Markup.tags
      (Terminal.styled style text ++ back ++ Markup.escape s).toList))).isSome = true
    rw [htags, hstyles]
    rfl

end Standard

/-! ## The tables of the standard console -/

private theorem isGap_bar : IsGap "│" := ⟨by decide, by decide⟩

private theorem isGap_append {s t : String} (hs : s = "" ∨ IsGap s) (ht : IsGap t) :
    IsGap (s ++ t) := by
  rcases hs with rfl | hs
  · rwa [String.empty_append]
  refine ⟨fun h => hs.1 (String.append_eq_empty_iff.1 h).1, ?_⟩
  rw [String.toList_append, List.all_append, hs.2, ht.2]
  rfl

private theorem blanks_isGap (n : Nat) : blanks n = "" ∨ IsGap (blanks n) := by
  cases n with
  | zero => exact .inl rfl
  | succ n =>
      refine .inr ⟨?_, ?_⟩
      · rw [Ne, ← String.toList_inj, blanks, String.toList_ofList]
        exact nofun
      · rw [blanks, String.toList_ofList, List.all_replicate]
        rfl

/-- A text in its field has blanks around it. -/
theorem placed_eq (side : Side) (width : Nat) (s : String) :
    ∃ m n, placed side width s = blanks m ++ s ++ blanks n := by
  have hnone : blanks 0 = "" := rfl
  cases side with
  | left => exact ⟨0, width - cells s, by rw [hnone, String.empty_append]; rfl⟩
  | middle => exact ⟨_, _, rfl⟩
  | right => exact ⟨width - cells s, 0, by rw [hnone, String.append_empty]; rfl⟩

/-- Placed cells behind bars, after a gap, are the cells of a line. -/
theorem holdsCells_barred {gap : String} (hgap : IsGap gap) (row : List (Side × Nat × String)) :
    HoldsCells
      (gap ++ String.join
        (row.map fun cell => " " ++ placed cell.1 cell.2.1 cell.2.2 ++ " " ++ "│") ++ "\n")
      (row.map fun cell => cell.2.2) := by
  induction row generalizing gap with
  | nil => exact .last (by rwa [List.map_nil, String.join_nil, String.append_empty])
  | cons cell row ih =>
      obtain ⟨side, w, s⟩ := cell
      obtain ⟨m, n, hplaced⟩ := placed_eq side w s
      have hblank : IsGap " " := ⟨by decide, by decide⟩
      have hbefore : IsGap (gap ++ (" " ++ blanks m)) := by
        refine isGap_append (.inr hgap) ?_
        rcases blanks_isGap m with h | h
        · rwa [h, String.append_empty]
        · exact isGap_append (.inr hblank) h
      have hbehind : IsGap (blanks n ++ (" " ++ "│")) :=
        isGap_append (blanks_isGap n) (isGap_append (.inr hblank) isGap_bar)
      have hline := HoldsCells.cell (s := s) hbefore (ih hbehind)
      simp only [List.map_cons, String.join_cons, hplaced]
      simpa only [String.append_assoc] using hline

private theorem cellLines_of_not_mem {s : String} (h : '\n' ∉ s.toList) : cellLines s = [s] := by
  rw [cellLines, pieces_of_not_mem h, List.map_singleton, String.ofList_toList]

/-- A row of cells without line breaks is a line with these cells. -/
theorem holdsCells_rowText {columns : List Column} {widths : List Nat} {row : List String}
    (hwidths : widths.length = columns.length) (hrow : row.length = columns.length)
    (h : ∀ s ∈ row, '\n' ∉ s.toList) : HoldsCells (rowText "│" columns widths row) row := by
  -- every cell has one line, so the row is one line high
  have hheight : (row.map fun s => (cellLines s).length).foldl max 1 = 1 := by
    clear hrow
    induction row with
    | nil => rfl
    | cons s row ih =>
        obtain ⟨hs, hrow⟩ := List.forall_mem_cons.1 h
        rw [List.map_cons, List.foldl_cons, cellLines_of_not_mem hs]
        exact ih hrow
  have hline : rowLine columns widths row 0
      = (columns.zip (widths.zip row)).map fun cell => placed cell.1.side cell.2.1 cell.2.2 := by
    rw [rowLine]
    refine List.map_congr_left fun cell hmem => ?_
    have hs : cell.2.2 ∈ row := (List.of_mem_zip (List.of_mem_zip hmem).2).2
    show placed cell.1.side cell.2.1 ((cellLines cell.2.2)[0]?.getD "") = _
    rw [cellLines_of_not_mem (h _ hs)]
    rfl
  have hcells : (columns.zip (widths.zip row)).map (fun cell => cell.2.2) = row := by
    have hzip : (columns.zip (widths.zip row)).map Prod.snd = widths.zip row :=
      List.map_snd_zip (by rw [List.length_zip, hwidths, hrow, min_self])
    have hsnd : (widths.zip row).map Prod.snd = row :=
      List.map_snd_zip (by rw [hwidths, hrow])
    calc (columns.zip (widths.zip row)).map (fun cell => cell.2.2)
        = ((columns.zip (widths.zip row)).map Prod.snd).map Prod.snd := by
          rw [List.map_map]
          rfl
      _ = row := by rw [hzip, hsnd]
  have hbarred := holdsCells_barred isGap_bar
    ((columns.zip (widths.zip row)).map fun cell => (cell.1.side, cell.2.1, cell.2.2))
  rw [List.map_map, List.map_map] at hbarred
  have hrow' : (columns.zip (widths.zip row)).map ((fun cell => cell.2.2) ∘
      fun cell => ((cell.1.side, cell.2.1, cell.2.2) : Side × Nat × String)) = row := hcells
  rw [hrow'] at hbarred
  rw [rowText, hheight]
  simp only [List.range_one, List.map_cons, List.map_nil, String.join_cons, String.join_nil,
    String.append_empty, hline, barred, List.map_map]
  exact hbarred

/-- A table of the standard console has a line for each of its rows, if these have a cell for each
    column and no line breaks in them. -/
theorem standard_hasLines (title : String) {columns : List Column} {rows : List (List String)}
    (hlength : ∀ row ∈ rows, row.length = columns.length)
    (h : ∀ row ∈ rows, ∀ s ∈ row, '\n' ∉ s.toList) :
    HasLines (Console.standard.table title columns rows) rows := by
  have hwidths : (widthsOf columns rows).length = columns.length := List.length_mapIdx
  have hlines : List.Forall₂ HoldsCells
      (rows.map (rowText "│" columns (widthsOf columns rows))) rows := by
    rw [List.forall₂_map_left_iff, List.forall₂_same]
    exact fun row hrow => holdsCells_rowText hwidths (hlength row hrow) (h row hrow)
  -- the head of the table stands before the rows
  obtain ⟨before, hbefore⟩ : ∃ before, table title columns rows
      = before ++ "\n" ++ String.join (rows.map (rowText "│" columns (widthsOf columns rows)))
        ++ (Rule.mk "└" '─' "┴" "┘").line (widthsOf columns rows) := by
    generalize hws : widthsOf columns rows = widths
    refine ⟨placed .middle (totalCount (widths.map (· + 3)) + 1) title ++ "\n"
      ++ (Rule.mk "┏" '━' "┳" "┓").line widths
      ++ rowText "┃" columns widths (columns.map (·.head))
      ++ ("┡" ++ joined "╇" (widths.map fun w => String.ofList (List.replicate (w + 2) '━'))
        ++ "┩"), ?_⟩
    rw [table, hws]
    simp only [Rule.line, String.append_assoc]
  exact ⟨before, _, _, hbefore, hlines⟩

end DiffGauge.Report
