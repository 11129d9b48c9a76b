import DiffGauge.Proofs.Diff.Printed
import DiffGauge.Proofs.Text.Digits

/-!
# Lines and their text

Lines written with a line break at the end of each are the lines of the text, if none of them
holds a line break or ends in a carriage return and the first does not begin with a byte order
mark (`linesOf_broken`). The lines of a printed diff are of this kind (`linesOf_printed`).
-/

namespace DiffGauge.Diff

open Text

/-- A line that is read as it is written. -/
structure IsClean (line : Line) : Prop where
  no_break : '\n' ∉ line
  no_return : line.getLast? ≠ some '\r'

/-- What stands before a clean text does not matter to its end. -/
theorem IsClean.append {front line : Line} (hfront : '\n' ∉ front) (hne : line ≠ [])
    (h : IsClean line) : IsClean (front ++ line) := by
  constructor
  · rw [List.mem_append]
    exact fun hmem => hmem.elim hfront h.no_break
  · rw [List.getLast?_append]
    cases hlast : line.getLast? with
    | none => exact absurd (List.getLast?_eq_none_iff.1 hlast) hne
    | some c =>
        have hc := h.no_return
        rw [hlast] at hc
        exact hc

/-! ## Pieces -/

/-- The first separator ends the first piece. -/
theorem pieces_append_sep {sep : Char} {l : List Char} (h : sep ∉ l) (cs : List Char) :
    pieces sep (l ++ sep :: cs) = l :: pieces sep cs := by
  rw [pieces_append, pieces_of_not_mem h, List.singleton_append]

/-- Texts with a separator after each of them are the pieces, and nothing is the last. -/
theorem pieces_flatMap_sep {sep : Char} {ls : List (List Char)} (h : ∀ l ∈ ls, sep ∉ l) :
    pieces sep (ls.flatMap fun l => l ++ [sep]) = ls ++ [[]] := by
  induction ls with
  | nil => rfl
  | cons l ls ih =>
      obtain ⟨hl, hls⟩ := List.forall_mem_cons.1 h
      rw [List.flatMap_cons, List.append_assoc, List.singleton_append, pieces_append_sep hl,
        ih hls, List.cons_append]

/-! ## Lines -/

/-- A line that does not end in a carriage return stays as it is. -/
theorem withoutReturn_eq_self {line : Line} (h : line.getLast? ≠ some '\r') :
    withoutReturn line = line := by
  rw [withoutReturn, if_neg h]

/-- A text that does not begin with a mark stays as it is. -/
theorem withoutMark_eq_self {cs : List Char} (h : cs.head? ≠ some '\uFEFF') :
    withoutMark cs = cs := by
  unfold withoutMark
  split
  · exact absurd rfl h
  · rfl

/-- Clean lines, each with a line break at its end, are read back. -/
theorem linesOf_broken {lines : List Line} (hclean : ∀ l ∈ lines, IsClean l)
    (hmark : ((lines.flatMap fun l => l ++ ['\n']).head?) ≠ some '\uFEFF') :
    linesOf (lines.flatMap fun l => l ++ ['\n']) = lines := by
  have hpieces := pieces_flatMap_sep fun l hl => (hclean l hl).no_break
  have hmap : lines.map withoutReturn = lines := by
    calc lines.map withoutReturn
        = lines.map id :=
          List.map_congr_left fun l hl => withoutReturn_eq_self (hclean l hl).no_return
      _ = lines := List.map_id lines
  unfold linesOf
  rw [withoutMark_eq_self hmark, hpieces]
  simp only [List.getLast?_concat, if_true, List.dropLast_concat]
  exact hmap

/-! ## The lines of a printed diff -/

private theorem digitsOf_no_break (n : Nat) : '\n' ∉ digitsOf n :=
  fun hmem => absurd (isDigit_of_mem_digitsOf hmem) (by decide)

private theorem countText_no_break (terse : Bool) (count : Nat) : '\n' ∉ countText terse count := by
  rw [countText]
  by_cases hterse : (terse && count == 1) = true
  · rw [if_pos hterse]
    exact List.not_mem_nil
  · rw [if_neg hterse, List.mem_cons, not_or]
    exact ⟨by decide, digitsOf_no_break count⟩

/-- A trimmed text does not end in a blank. -/
theorem isBlank_getLast?_of_trim {cs : List Char} (h : trim cs = cs) :
    ∀ c ∈ cs.getLast?, isBlank c = false := by
  intro c hc
  rw [← h, trim, trimRight, List.getLast?_reverse] at hc
  have hhead := List.head?_dropWhile_not isBlank (cs.dropWhile isBlank).reverse
  rw [hc] at hhead
  exact hhead

/-- A text that does not end in a blank does not end in a carriage return. -/
theorem no_return_of_no_blank_end {cs : List Char} (h : ∀ c ∈ cs.getLast?, isBlank c = false) :
    cs.getLast? ≠ some '\r' :=
  fun e => absurd (h '\r' e) (by decide)

/-- The characters of a path are clean. -/
theorem PathText.isClean (p : PathText) : IsClean p.chars :=
  ⟨p.no_break, no_return_of_no_blank_end p.no_blank_end⟩

/-- The digits of a mode are clean, and there are some. -/
theorem ModeText.isClean (m : ModeText) : m.digits ≠ [] ∧ IsClean m.digits := by
  obtain ⟨digits, hnumber⟩ := m
  simp only [Diff.isNumber, Bool.and_eq_true, Bool.not_eq_true', List.isEmpty_eq_false_iff,
    List.all_eq_true] at hnumber
  obtain ⟨hne, hdigits⟩ := hnumber
  refine ⟨hne, fun hmem => absurd (hdigits _ hmem) (by decide), fun e => ?_⟩
  exact absurd (hdigits _ (List.mem_of_getLast? e)) (by decide)

/-- A line of a body is clean. -/
theorem BodyText.isClean (b : BodyText) : IsClean b.line := by
  obtain ⟨kind, content, hbreak, hreturn⟩ := b
  have hmark : kind.mark ≠ '\n' ∧ kind.mark ≠ '\r' := by cases kind <;> decide
  constructor
  · rw [BodyText.line, List.mem_cons, not_or]
    exact ⟨hmark.1.symm, hbreak⟩
  · rw [BodyText.line]
    cases content with
    | nil => exact fun e => hmark.2 (Option.some.inj e)
    | cons c cs => exact hreturn

private theorem HunkText.header_isClean (h : HunkText) : IsClean h.header := by
  have hend : IsClean (" @@".toList ++ headingText h.heading) := by
    have hheading : IsClean h.heading :=
      ⟨h.heading_no_break, no_return_of_no_blank_end (isBlank_getLast?_of_trim h.trim_heading)⟩
    rw [headingText]
    cases heq : h.heading with
    | nil => exact ⟨by decide, by decide⟩
    | cons c cs =>
        rw [heq] at hheading
        have hfront : '\n' ∉ " @@ ".toList := by decide
        show IsClean (" @@ ".toList ++ (c :: cs))
        exact .append hfront (List.cons_ne_nil c cs) hheading
  rw [HunkText.header]
  refine .append (by decide) ?_ (.append (digitsOf_no_break _) ?_ (.append
    (countText_no_break _ _) ?_ (.append (by decide) ?_ (.append (digitsOf_no_break _) ?_
    (.append (countText_no_break _ _) ?_ hend)))))
  all_goals simp

private theorem pathLine_isClean {lead side : String} (hlead : '\n' ∉ lead.toList)
    (hside : '\n' ∉ side.toList) (path : Option PathText) : IsClean (pathLine lead side path) := by
  cases path with
  | none =>
      have hne : "/dev/null".toList ≠ [] := by decide
      have hnull : IsClean "/dev/null".toList := ⟨by decide, by decide⟩
      exact .append hlead hne hnull
  | some p =>
      refine .append hlead ?_ (.append hside p.ne_nil p.isClean)
      simp [p.ne_nil]

private theorem OpeningText.line_isClean (o : OpeningText) : IsClean o.line := by
  refine .append (by decide) ?_ (.append (by decide) ?_ (.append o.left.no_break ?_
    (.append (by decide) o.right.ne_nil o.right.isClean)))
  all_goals simp

private theorem OpeningText.headers_isClean (o : OpeningText) : ∀ l ∈ o.headers, IsClean l := by
  intro l hl
  simp only [headers, List.mem_append, List.mem_map, List.mem_flatMap] at hl
  rcases hl with ⟨m, -, rfl⟩ | ⟨m, -, rfl⟩ | ⟨r, -, hr⟩
  · exact .append (by decide) m.isClean.1 m.isClean.2
  · exact .append (by decide) m.isClean.1 m.isClean.2
  · simp only [renameLines, List.mem_cons, List.not_mem_nil, or_false] at hr
    rcases hr with rfl | rfl
    · exact .append (by decide) r.1.ne_nil r.1.isClean
    · exact .append (by decide) r.2.ne_nil r.2.isClean

/-- The lines of a hunk are clean. -/
theorem HunkText.lines_isClean (h : HunkText) : ∀ l ∈ h.lines, IsClean l := by
  intro l hl
  simp only [lines, List.mem_cons, List.mem_map] at hl
  rcases hl with rfl | ⟨b, -, rfl⟩
  · exact h.header_isClean
  · exact b.isClean

/-- The lines of a section are clean. -/
theorem SectionText.lines_isClean (s : SectionText) : ∀ l ∈ s.lines, IsClean l := by
  have hsides : ∀ l ∈ s.sides, IsClean l := by
    intro l hl
    rw [sides, List.mem_cons, List.mem_cons, List.mem_flatMap] at hl
    rcases hl with rfl | rfl | ⟨h, -, hl⟩
    · exact pathLine_isClean (by decide) (by decide) _
    · exact pathLine_isClean (by decide) (by decide) _
    · exact h.lines_isClean l hl
  intro l hl
  rw [lines] at hl
  cases hopening : s.opening with
  | none =>
      rw [hopening] at hl
      exact hsides l hl
  | some o =>
      rw [hopening] at hl
      simp only [List.mem_cons, List.mem_append] at hl
      rcases hl with rfl | hl | hl
      · exact o.line_isClean
      · exact o.headers_isClean l hl
      · exact hsides l hl

/-- The lines of a printed diff are the lines of its sections. -/
theorem linesOf_printed (sections : List SectionText) :
    linesOf (printed sections).toList = sections.flatMap SectionText.lines := by
  rw [printed, String.toList_ofList]
  refine linesOf_broken ?_ ?_
  · intro l hl
    obtain ⟨s, -, hl⟩ := List.mem_flatMap.1 hl
    exact s.lines_isClean l hl
  · cases sections with
    | nil =>
        intro e
        cases e
    | cons s sections =>
        obtain ⟨opening, oldPath, newPath, first, more⟩ := s
        cases opening with
        | some o =>
            show some 'd' ≠ some '\uFEFF'
            decide
        | none =>
            show some '-' ≠ some '\uFEFF'
            decide

end DiffGauge.Diff
