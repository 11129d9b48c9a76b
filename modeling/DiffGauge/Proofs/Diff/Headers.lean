import DiffGauge.Proofs.Diff.Printed
import DiffGauge.Proofs.Text.Digits
import Mathlib

/-!
# Printed header lines are read back

The lines of a printed diff that stand before the body of a hunk, one reader at a time.

* `read_header` reads the header of a hunk, `pathOf_pathLine` a path line;
* `headerPaths?_line` says that the opening line of a section always names two paths, and
  `read?_headers` reads the extended headers after it.
-/

namespace DiffGauge.Diff

open Text PathQuoting

/-! ## The header of a hunk -/

/-- Nothing is dropped from a text whose first character stays. -/
theorem dropWhile_eq_self {p : Char → Bool} {cs : List Char} (h : ∀ c ∈ cs.head?, p c = false) :
    cs.dropWhile p = cs := by
  cases cs with
  | nil => rfl
  | cons c cs =>
      rw [List.dropWhile_cons, h c rfl]
      rfl

/-- A text with no blank at either end is trimmed. -/
theorem trim_eq_self {cs : List Char} (hhead : ∀ c ∈ cs.head?, isBlank c = false)
    (hlast : ∀ c ∈ cs.getLast?, isBlank c = false) : trim cs = cs := by
  have hreverse : ∀ c ∈ cs.reverse.head?, isBlank c = false := by
    rw [List.head?_reverse]
    exact hlast
  rw [trim, dropWhile_eq_self hhead, trimRight, dropWhile_eq_self hreverse, List.reverse_reverse]

/-- A run of digits ends where something else begins. -/
theorem digitsFront?_append {digits rest : List Char} (hne : digits ≠ [])
    (hdigits : digits.all isDigit = true) (hrest : ∀ c ∈ rest.head?, isDigit c = false) :
    digitsFront? (digits ++ rest) = some (digits, rest) := by
  have hpos : ∀ c ∈ digits, isDigit c = true := List.all_eq_true.1 hdigits
  have htake : rest.takeWhile isDigit = [] := by
    cases rest with
    | nil => rfl
    | cons c cs => rw [List.takeWhile_cons_of_neg (by simp [hrest c rfl])]
  rw [digitsFront?, List.span_eq_takeWhile_dropWhile, List.takeWhile_append_of_pos hpos,
    List.dropWhile_append_of_pos hpos, htake, dropWhile_eq_self hrest, List.append_nil]
  cases digits with
  | nil => exact absurd rfl hne
  | cons d ds => rfl

private theorem digitsFront?_digitsOf (n : Nat) {rest : List Char}
    (hrest : ∀ c ∈ rest.head?, isDigit c = false) :
    digitsFront? (digitsOf n ++ rest) = some (digitsOf n, rest) :=
  digitsFront?_append (digitsOf_ne_nil n) (digitsOf_all_isDigit n) hrest

private theorem lineNumber_digitsOf {n : Nat} (h : n < 10 ^ maxDigits) :
    lineNumber (digitsOf n) = .ok n := by
  rw [lineNumber, readNumber?_digitsOf h]

/-- A count is read back, also one that is left out. -/
theorem countFront_countText (terse : Bool) {count : Nat} (h : count < 10 ^ maxDigits)
    (rest : List Char) :
    ∃ digits, countFront (countText terse count ++ ' ' :: rest) = (digits, ' ' :: rest) ∧
      lineCount digits = .ok count := by
  rw [countText]
  by_cases hterse : (terse && count == 1) = true
  · rw [if_pos hterse]
    simp only [Bool.and_eq_true, beq_iff_eq] at hterse
    exact ⟨none, rfl, by rw [hterse.2]; rfl⟩
  · rw [if_neg hterse]
    refine ⟨some (digitsOf count), ?_, lineNumber_digitsOf h⟩
    have hblank : ∀ c ∈ (' ' :: rest).head?, isDigit c = false := by
      rintro c ⟨⟩
      decide
    rw [List.cons_append, countFront]
    simp only [digitsFront?_digitsOf count hblank]

/-- What follows a start in a header is a count or a blank. -/
theorem head?_countText (terse : Bool) (count : Nat) (rest : List Char) :
    ∀ c ∈ (countText terse count ++ ' ' :: rest).head?, isDigit c = false := by
  rw [countText]
  by_cases hterse : (terse && count == 1) = true
  · rw [if_pos hterse]
    rintro c ⟨⟩
    decide
  · rw [if_neg hterse]
    rintro c ⟨⟩
    decide

private theorem trim_headingText {heading : List Char} (h : trim heading = heading) :
    trim (headingText heading) = heading := by
  rw [headingText]
  cases heading with
  | nil => rfl
  | cons c cs =>
      have hblank : isBlank ' ' = true := by decide
      show trim (' ' :: c :: cs) = c :: cs
      rw [trim, List.dropWhile_cons_of_pos hblank]
      exact h

/-- The header of a hunk is read back. -/
theorem read_header (h : HunkText) (n : Nat) :
    HunkHeader.read h.header n
      = .ok {
        oldStart := h.oldStart
        oldCount := h.oldCount
        newStart := h.newStart
        newCount := h.newCount
        heading := String.ofList h.heading } := by
  have holdlt : h.oldCount < 10 ^ maxDigits := h.oldCount_lt
  have hnewlt : h.newCount < 10 ^ maxDigits := h.newCount_lt
  obtain ⟨oldDigits, hold, oldOk⟩ := countFront_countText h.oldTerse holdlt
    ('+' :: (digitsOf h.newStart ++ (countText h.newTerse h.newCount
      ++ (" @@".toList ++ headingText h.heading))))
  obtain ⟨newDigits, hnew, newOk⟩ := countFront_countText h.newTerse hnewlt
    ('@' :: '@' :: headingText h.heading)
  have htext : HunkHeaderText.read? h.header
      = some {
        oldStart := digitsOf h.oldStart
        oldCount := oldDigits
        newStart := digitsOf h.newStart
        newCount := newDigits
        heading := h.heading } := by
    have hlead : dropLead? "@@ -" h.header = some _ := after?_append _ _
    have hplus (cs : List Char) : dropLead? " +" (' ' :: '+' :: cs) = some cs := rfl
    have hsigns (cs : List Char) : dropLead? " @@" (' ' :: '@' :: '@' :: cs) = some cs := rfl
    have holdStart := digitsFront?_digitsOf h.oldStart (head?_countText h.oldTerse h.oldCount
      ('+' :: (digitsOf h.newStart ++ (countText h.newTerse h.newCount
        ++ (" @@".toList ++ headingText h.heading)))))
    have hnewStart := digitsFront?_digitsOf h.newStart
      (head?_countText h.newTerse h.newCount ('@' :: '@' :: headingText h.heading))
    simp only [String.reduceToList, List.cons_append, List.nil_append] at hlead hold holdStart
    simp only [HunkHeaderText.read?, hlead, bind, Option.bind, holdStart, hold, hplus, hnewStart,
      hnew, hsigns, trim_headingText h.trim_heading]
    rfl
  rw [HunkHeader.read, htext]
  simp only [lineNumber_digitsOf h.oldStart_lt, lineNumber_digitsOf h.newStart_lt, oldOk, newOk]
  rfl

/-! ## Path lines -/

/-- A text begins with the lead in front of it. -/
theorem hasLead_append (lead : String) (rest : List Char) :
    hasLead lead (lead.toList ++ rest) = true := by
  rw [hasLead, dropLead?, after?_append]
  rfl

/-- What does not begin with a quotation mark is not quoted. -/
theorem unquote_eq_self {cs : List Char} (h : cs.head? ≠ some '"') : unquote cs = cs := by
  have hinside : inside? cs = none := by
    unfold inside?
    split
    · exact absurd rfl h
    · rfl
  rw [unquote, hinside]

/-- The token of a path line is what stands after the four characters in front. -/
theorem pathToken_append {lead text : List Char} (hlead : lead.length = 4) (htab : '\t' ∉ text)
    (htrim : trim text = text) : pathToken (lead ++ text) = text := by
  have htake : text.takeWhile (· != '\t') = text := by
    rw [List.takeWhile_eq_self_iff]
    intro c hc
    have hne : c ≠ '\t' := fun e => htab (e ▸ hc)
    exact bne_iff_ne.2 hne
  rw [pathToken, List.drop_left' hlead, htake, htrim]

/-- The path of a path line is read back, and so is that there is none. -/
theorem pathOf_pathLine {lead side : String} (hlead : lead.toList.length = 4)
    (hside : side = "a/" ∨ side = "b/") (path : Option PathText) (n : Nat) :
    pathOf side (pathLine lead side path) n = .ok (path.map fun p => String.ofList p.chars) := by
  cases path with
  | none =>
      have hnotab : '\t' ∉ "/dev/null".toList := by decide
      have htrim : trim "/dev/null".toList = "/dev/null".toList := by decide
      have htoken : pathToken (pathLine lead side none) = "/dev/null".toList :=
        pathToken_append hlead hnotab htrim
      rw [pathOf, htoken]
      rfl
  | some p =>
      obtain ⟨letter, hletter, hblank, hquote, hslash, htab⟩ :
          ∃ letter, side.toList = [letter, '/'] ∧ isBlank letter = false ∧ letter ≠ '"' ∧
            letter ≠ '/' ∧ letter ≠ '\t' := by
        rcases hside with rfl | rfl
        · exact ⟨'a', rfl, by decide, by decide, by decide, by decide⟩
        · exact ⟨'b', rfl, by decide, by decide, by decide, by decide⟩
      have htrim : trim (letter :: '/' :: p.chars) = letter :: '/' :: p.chars := by
        refine trim_eq_self ?_ ?_
        · rintro c ⟨⟩
          exact hblank
        · intro c hc
          refine p.no_blank_end c ?_
          rw [← hc, List.getLast?_cons_cons, List.getLast?_cons_of_ne_nil p.ne_nil]
      have hnotab : '\t' ∉ letter :: '/' :: p.chars := by
        simp only [List.mem_cons, not_or]
        exact ⟨htab.symm, by decide, p.no_tab⟩
      have htoken : pathToken (pathLine lead side (some p)) = letter :: '/' :: p.chars := by
        rw [pathLine, hletter]
        exact pathToken_append hlead hnotab htrim
      have hunquote : unquote (letter :: '/' :: p.chars) = letter :: '/' :: p.chars :=
        unquote_eq_self fun e => hquote (Option.some.inj e)
      have hnull : letter :: '/' :: p.chars ≠ "/dev/null".toList :=
        fun e => hslash (List.cons.inj e).1
      have hpath : withoutLead side (letter :: '/' :: p.chars) = p.chars := by
        have hafter : after? side.toList (letter :: '/' :: p.chars) = some p.chars := by
          rw [hletter]
          exact after?_append [letter, '/'] p.chars
        rw [withoutLead, dropLead?, hafter]
        rfl
      rw [pathOf, htoken]
      simp only [List.isEmpty_cons, Bool.false_eq_true, if_false, hunquote, if_neg hnull, hpath]
      rfl

/-! ## What an opening line and its headers say -/

/-- A separator with a text on either side of it divides the line, there or further on. -/
theorem lastSplit?_isSome (sep : List Char) {left right : List Char} (hleft : left ≠ [])
    (hright : right ≠ []) : (lastSplit? sep (left ++ (sep ++ right))).isSome = true := by
  induction left with
  | nil => exact absurd rfl hleft
  | cons c left ih =>
      rw [List.cons_append, lastSplit?]
      cases hlater : lastSplit? sep (left ++ (sep ++ right)) with
      | some pair => rfl
      | none =>
          -- nothing further on divides it, so the separator comes next
          have hnil : left = [] := by
            by_contra hne
            rw [hlater] at ih
            cases ih hne
          obtain ⟨r, right, rfl⟩ := List.exists_cons_of_ne_nil hright
          rw [hnil, List.nil_append, after?_append]
          rfl

/-- An opening line names two paths, whatever the paths look like. -/
theorem headerPaths?_line (o : OpeningText) : (headerPaths? o.line).isSome = true := by
  have hrest : dropLead? "diff --git " o.line = some _ := after?_append _ _
  have hleft (cs : List Char) : dropLead? "a/" ("a/".toList ++ cs) = some cs := after?_append _ _
  have hsplit := lastSplit?_isSome " b/".toList o.left.ne_nil o.right.ne_nil
  obtain ⟨⟨left, right⟩, hpair⟩ := Option.isSome_iff_exists.1 hsplit
  have hpaths : lastSplit? [' ', 'b', '/'] (o.left.chars ++ (" b/".toList ++ o.right.chars))
      = some (left, right) := hpair
  simp only [headerPaths?, hrest, hleft, bind, Option.bind, hpaths]
  split
  · rfl
  · rfl

/-- What the headers of an opening say. -/
def OpeningText.sayings (o : OpeningText) : List ExtendedHeader :=
  (o.newMode.toList.map fun _ => .newFile)
    ++ ((o.deletedMode.toList.map fun _ => .deletedFile)
      ++ o.rename.toList.flatMap fun r =>
        [.renamedFrom (String.ofList (unquote r.1.chars)),
          .renamedTo (String.ofList (unquote r.2.chars))])

/-- A line with a new mode says that the file is new. -/
theorem read?_newModeLine (m : ModeText) :
    ExtendedHeader.read? (newModeLine m) = some .newFile := by
  have hmode : leadThen "new file mode " isNumber (newModeLine m) = true := m.isNumber
  show (if leadThen "new file mode " isNumber (newModeLine m) = true
    then some ExtendedHeader.newFile else _) = _
  rw [if_pos hmode]

/-- A line with a deleted mode says that the file is gone. -/
theorem read?_deletedModeLine (m : ModeText) :
    ExtendedHeader.read? (deletedModeLine m) = some .deletedFile := by
  have hmode : leadThen "deleted file mode " isNumber (deletedModeLine m) = true := m.isNumber
  show (if leadThen "deleted file mode " isNumber (deletedModeLine m) = true
    then some ExtendedHeader.deletedFile else _) = _
  rw [if_pos hmode]

private theorem read?_renameLines (r : PathText × PathText) :
    (renameLines r).map ExtendedHeader.read?
      = [some (.renamedFrom (String.ofList (unquote r.1.chars))),
          some (.renamedTo (String.ofList (unquote r.2.chars)))] := by
  obtain ⟨⟨left, hleft, _, _, _⟩, ⟨right, hright, _, _, _⟩⟩ := r
  obtain ⟨c, left, rfl⟩ := List.exists_cons_of_ne_nil hleft
  obtain ⟨d, right, rfl⟩ := List.exists_cons_of_ne_nil hright
  rfl

/-- Every header of an opening is read. -/
theorem read?_headers (o : OpeningText) :
    o.headers.map ExtendedHeader.read? = o.sayings.map some := by
  rw [OpeningText.headers, OpeningText.sayings]
  simp only [List.map_append]
  congr 1
  · cases o.newMode with
    | none => rfl
    | some m => exact congrArg ([·]) (read?_newModeLine m)
  congr 1
  · cases o.deletedMode with
    | none => rfl
    | some m => exact congrArg ([·]) (read?_deletedModeLine m)
  · cases o.rename with
    | none => rfl
    | some r => exact read?_renameLines r

end DiffGauge.Diff
