import DiffGauge.Proofs.Diff.Lines
import Mathlib.Data.List.Forall2

/-!
# Line endings do not matter

A line break may have a carriage return before it, and a text a byte order mark in front. Neither
is part of a line, so that a diff is read alike with and without them, down to the number of the
line at which it is at fault.

* `Rebroken.pieces` compares the pieces of a text before and after returns are put in;
* `Rebroken.linesOf_eq` and `linesOf_mark` are about lines;
* `read_rebroken` is the statement about reading.
-/

namespace DiffGauge.Diff

open Text

/-- The second text is the first one with a carriage return before some of its line breaks. -/
inductive Rebroken : List Char → List Char → Prop
  | nil : Rebroken [] []
  | keep (c : Char) {cs ds : List Char} : Rebroken cs ds → Rebroken (c :: cs) (c :: ds)
  | change {cs ds : List Char} : Rebroken cs ds → Rebroken ('\n' :: cs) ('\r' :: '\n' :: ds)

/-- A text with a carriage return before each line break. -/
def withReturns (cs : List Char) : List Char :=
  cs.flatMap fun c => if c = '\n' then ['\r', '\n'] else [c]

private theorem rebroken_withReturns (cs : List Char) : Rebroken cs (withReturns cs) := by
  induction cs with
  | nil => exact .nil
  | cons c cs ih =>
      by_cases hc : c = '\n'
      · subst hc
        exact .change ih
      · have hcons : withReturns (c :: cs) = c :: withReturns cs := by
          rw [withReturns, List.flatMap_cons, if_neg hc]
          rfl
        rw [hcons]
        exact .keep c ih

/-- Every text is one of its own changed forms. -/
theorem Rebroken.refl (cs : List Char) : Rebroken cs cs := by
  induction cs with
  | nil => exact .nil
  | cons c cs ih => exact .keep c ih

/-- Line breaks are changed in two parts as in the whole. -/
theorem Rebroken.append {cs ds es fs : List Char} (h : Rebroken cs ds) (h' : Rebroken es fs) :
    Rebroken (cs ++ es) (ds ++ fs) := by
  induction h with
  | nil => exact h'
  | keep c _ ih => exact .keep c ih
  | change _ ih => exact .change ih

/-! ## Pieces -/

/-- The second line is the first one, or has a carriage return behind it. -/
def MayReturn (line line' : Line) : Prop := line' = line ∨ line' = line ++ ['\r']

/-- A character in front does not touch the end of the line. -/
theorem MayReturn.cons {line line' : Line} (h : MayReturn line line') (c : Char) :
    MayReturn (c :: line) (c :: line') := by
  rcases h with rfl | rfl
  · exact .inl rfl
  · exact .inr rfl

private theorem withoutReturn_of_mayReturn {line line' : Line} (h : MayReturn line line')
    (hclean : line.getLast? ≠ some '\r') : withoutReturn line' = line := by
  rcases h with rfl | rfl
  · exact withoutReturn_eq_self hclean
  · rw [withoutReturn, if_pos List.getLast?_concat, List.dropLast_concat]

/-- Returns that are put in stand at the ends of pieces, and the last piece has none: no line break
    is behind it. -/
theorem Rebroken.pieces {cs ds : List Char} (h : Rebroken cs ds) :
    ∃ lines lines' last, Text.pieces '\n' cs = lines ++ [last] ∧
      Text.pieces '\n' ds = lines' ++ [last] ∧ List.Forall₂ MayReturn lines lines' := by
  induction h with
  | nil => exact ⟨[], [], [], rfl, rfl, .nil⟩
  | @keep c cs ds _ ih =>
      obtain ⟨lines, lines', last, hcs, hds, hlines⟩ := ih
      by_cases hc : c = '\n'
      · subst hc
        refine ⟨[] :: lines, [] :: lines', last, ?_, ?_, .cons (.inl rfl) hlines⟩
        · rw [pieces_cons_self, hcs, List.cons_append]
        · rw [pieces_cons_self, hds, List.cons_append]
      · cases hlines with
        | nil => exact ⟨[], [], c :: last, pieces_cons hc hcs, pieces_cons hc hds, .nil⟩
        | @cons line line' lines lines' hline hlines =>
            exact ⟨_, _, last, pieces_cons hc hcs, pieces_cons hc hds,
              .cons (hline.cons c) hlines⟩
  | @change cs ds _ ih =>
      obtain ⟨lines, lines', last, hcs, hds, hlines⟩ := ih
      refine ⟨[] :: lines, ['\r'] :: lines', last, ?_, ?_, .cons (.inr rfl) hlines⟩
      · rw [pieces_cons_self, hcs, List.cons_append]
      · have hbreak : Text.pieces '\n' ('\n' :: ds) = [] :: (lines' ++ [last]) := by
          rw [pieces_cons_self, hds]
        exact pieces_cons (by decide) hbreak

/-! ## Lines -/

/-- No line of the text ends in a carriage return. -/
def EndsPlain (cs : List Char) : Prop := ∀ line ∈ pieces '\n' cs, line.getLast? ≠ some '\r'

/-- A byte order mark is kept, and none appears. -/
theorem Rebroken.withoutMark {cs ds : List Char} (h : Rebroken cs ds) :
    Rebroken (withoutMark cs) (withoutMark ds) := by
  cases h with
  | nil => exact .nil
  | @keep c cs ds h =>
      by_cases hc : c = '\uFEFF'
      · subst hc
        exact h
      · have hne (es : List Char) : (c :: es).head? ≠ some '\uFEFF' :=
          fun e => hc (Option.some.inj e)
        rw [withoutMark_eq_self (hne cs), withoutMark_eq_self (hne ds)]
        exact .keep c h
  | change h => exact .change h

/-- The mark in front does not touch the end. -/
theorem EndsPlain.withoutMark {cs : List Char} (h : EndsPlain cs) :
    EndsPlain (withoutMark cs) := by
  by_cases hmark : cs.head? = some '\uFEFF'
  · obtain ⟨rest, rfl⟩ := List.head?_eq_some_iff.1 hmark
    obtain ⟨line, lines, hlines⟩ := List.exists_cons_of_ne_nil (pieces_ne_nil '\n' rest)
    rw [EndsPlain, pieces_cons (by decide) hlines] at h
    show ∀ l ∈ pieces '\n' rest, l.getLast? ≠ some '\r'
    rw [hlines]
    obtain ⟨hfirst, hothers⟩ := List.forall_mem_cons.1 h
    refine List.forall_mem_cons.2 ⟨?_, hothers⟩
    cases line with
    | nil => exact fun e => nomatch e
    | cons c line => exact hfirst
  · rw [withoutMark_eq_self hmark]
    exact h

/-- Lines that may have a return behind them are the same lines without it. -/
theorem map_withoutReturn {lines lines' : List Line} (h : List.Forall₂ MayReturn lines lines')
    (hclean : ∀ line ∈ lines, line.getLast? ≠ some '\r') :
    lines'.map withoutReturn = lines.map withoutReturn := by
  induction h with
  | nil => rfl
  | @cons line line' lines lines' hline _ ih =>
      obtain ⟨hfirst, hothers⟩ := List.forall_mem_cons.1 hclean
      rw [List.map_cons, List.map_cons, withoutReturn_of_mayReturn hline hfirst,
        withoutReturn_eq_self hfirst, ih hothers]

/-- Returns before line breaks change no line. -/
theorem Rebroken.linesOf_eq {cs ds : List Char} (h : Rebroken cs ds) (hplain : EndsPlain cs) :
    linesOf ds = linesOf cs := by
  obtain ⟨lines, lines', last, hcs, hds, hlines⟩ := h.withoutMark.pieces
  have hclean := hplain.withoutMark
  rw [EndsPlain, hcs, List.forall_mem_append] at hclean
  have hmap := map_withoutReturn hlines hclean.1
  unfold linesOf
  rw [hcs, hds]
  -- the last piece is the same, and so is whether it is left out
  simp only [List.getLast?_concat, List.dropLast_concat]
  split
  · exact hmap
  · rw [List.map_append, List.map_append, hmap]

/-- A byte order mark in front is on no line. -/
theorem linesOf_mark {cs : List Char} (h : cs.head? ≠ some '\uFEFF') :
    linesOf ('\uFEFF' :: cs) = linesOf cs := by
  unfold linesOf
  rw [withoutMark_eq_self h]
  rfl

private theorem Rebroken.head?_ne_mark {cs ds : List Char} (h : Rebroken cs ds)
    (hmark : cs.head? ≠ some '\uFEFF') : ds.head? ≠ some '\uFEFF' := by
  cases h with
  | nil => exact hmark
  | keep c h => exact hmark
  | change h => exact fun e => nomatch e

/-! ## Reading -/

/-- **Line endings and a byte order mark are not seen**: if no line of a text ends in a carriage
    return, then the text with one before any of its line breaks is read like the text itself, and
    so are both of them with a byte order mark in front, unless there is one already. Where one of
    them is at fault, all are, for the same cause and at the same line. -/
theorem read_rebroken {text text' : String} (hplain : EndsPlain text.toList)
    (h : Rebroken text.toList text'.toList) :
    read text' = read text ∧
      read (String.ofList (withReturns text.toList)) = read text ∧
      (text.toList.head? ≠ some '\uFEFF' →
        read (String.ofList ('\uFEFF' :: text.toList)) = read text ∧
          read (String.ofList ('\uFEFF' :: text'.toList)) = read text) := by
  have hlines := h.linesOf_eq hplain
  have hreturns := (rebroken_withReturns text.toList).linesOf_eq hplain
  refine ⟨?_, ?_, ?_⟩
  · rw [read, hlines]
    rfl
  · rw [read, String.toList_ofList, hreturns]
    rfl
  · intro hmark
    constructor
    · rw [read, String.toList_ofList, linesOf_mark hmark]
      rfl
    · rw [read, String.toList_ofList, linesOf_mark (h.head?_ne_mark hmark), hlines]
      rfl

/-- A diff whose last line is cut off. -/
def plainText : String := "\n--- a/x\n+++ b/x\n@@ -1 +1,2 @@\n-a\n\nb"

/-- The same diff with a return on some of its lines. -/
def mixedText : String := "\r\n--- a/x\n+++ b/x\r\n@@ -1 +1,2 @@\r\n-a\n\r\nb"

/-- A truncated diff, with line breaks of every sort and a mark in front. -/
theorem read_rebroken_of_mixedText :
    EndsPlain plainText.toList ∧ Rebroken plainText.toList mixedText.toList ∧
      plainText.toList.head? ≠ some '\uFEFF' ∧
      read plainText = .error (.at (.truncatedHunk 0 2 6) 4) ∧
      read mixedText = .error (.at (.truncatedHunk 0 2 6) 4) ∧
      read (String.ofList ('\uFEFF' :: mixedText.toList))
        = .error (.at (.truncatedHunk 0 2 6) 4) := by
  have hplain : EndsPlain plainText.toList := by
    show ∀ line ∈ pieces '\n' plainText.toList, line.getLast? ≠ some '\r'
    decide +kernel
  have hmixed : Rebroken plainText.toList mixedText.toList := by
    have hend : Rebroken "-a\n\nb".toList "-a\n\r\nb".toList :=
      (Rebroken.refl "-a\n".toList).append (.change (.refl "b".toList))
    have hbody : Rebroken "@@ -1 +1,2 @@\n-a\n\nb".toList "@@ -1 +1,2 @@\r\n-a\n\r\nb".toList :=
      (Rebroken.refl "@@ -1 +1,2 @@".toList).append (.change hend)
    exact .change ((Rebroken.refl "--- a/x\n+++ b/x".toList).append (.change hbody))
  have hread : read plainText = .error (.at (.truncatedHunk 0 2 6) 4) := by decide +kernel
  obtain ⟨hsame, -, hmark⟩ := read_rebroken hplain hmixed
  exact ⟨hplain, hmixed, by decide, hread, hsame.trans hread, (hmark (by decide)).2.trans hread⟩

end DiffGauge.Diff
