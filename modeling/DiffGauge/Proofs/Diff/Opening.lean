import DiffGauge.Proofs.Diff.Names
import Mathlib

/-!
# Two names on one line

The line that opens a section names the file on both sides, each name printed by itself. It is
taken apart in three ways, one after the other: as two tokens if it has a quote, at the last divider
` b/` with a text on either side, and as two words. Only a name in quotes shows where it ends.

* Two names without quotes are divided at the last divider, which may stand inside the second
  (`headerPaths?_plain`, `length_le_of_lastSplit?`).
* One name in quotes and one without are two tokens if the other has no blank
  (`headerPaths?_quote_plain`, `headerPaths?_plain_quote`).
* `headerPaths?_opening_isSome_iff` says of all four cases whether the line names two paths.
-/

namespace DiffGauge.Diff

open Text PathQuoting

/-- What stands between the two names of an opening line that are not in quotes. -/
def divider : List Char := [' ', 'b', '/']

/-- The line that opens the section of a file with these two names. -/
def opening (old new : List Char) : Line :=
  "diff --git ".toList ++ (shown ("a/".toList ++ old) ++ ' ' :: shown ("b/".toList ++ new))

/-! ## The last divider -/

/-- A division leaves a text on both sides of the separator. -/
theorem lastSplit?_eq_some {sep cs left right : List Char}
    (h : lastSplit? sep cs = some (left, right)) :
    cs = left ++ (sep ++ right) ∧ left ≠ [] ∧ right ≠ [] := by
  induction cs generalizing left with
  | nil => cases h
  | cons c cs ih =>
      rw [lastSplit?] at h
      split at h
      · next left' right' hlater =>
          cases h
          obtain ⟨hcs, -, hright⟩ := ih hlater
          exact ⟨congrArg (c :: ·) hcs, List.cons_ne_nil c left', hright⟩
      · split at h
        · next r right' hafter =>
            cases h
            rw [after?_eq_some_iff.1 hafter]
            exact ⟨rfl, List.cons_ne_nil c [], List.cons_ne_nil r right'⟩
        · cases h

/-- No separator with a text behind it stands further on than the one at which a text is
    divided. -/
theorem length_le_of_lastSplit? {sep cs left right l r : List Char}
    (h : lastSplit? sep cs = some (left, right)) (hcs : cs = l ++ (sep ++ r)) (hr : r ≠ []) :
    l.length ≤ left.length := by
  induction cs generalizing left l with
  | nil => cases h
  | cons c cs ih =>
      cases l with
      | nil => exact Nat.zero_le _
      | cons c' l =>
          rw [List.cons_append, List.cons.injEq] at hcs
          obtain ⟨rfl, rfl⟩ := hcs
          rw [lastSplit?] at h
          split at h
          · next left' right' hlater =>
              cases h
              exact Nat.succ_le_succ (ih hlater rfl)
          · next hlater =>
              -- a text that is not divided further on has no separator there
              have hnil : l = [] := by
                by_contra hne
                have hsome := lastSplit?_isSome sep hne hr
                rw [hlater] at hsome
                cases hsome
              split at h
              · cases h
                rw [hnil]
              · cases h

/-- A text is divided exactly if the separator stands inside it, its first and last character
    apart. -/
theorem lastSplit?_isSome_iff {sep cs : List Char} (hsep : sep ≠ []) :
    (lastSplit? sep cs).isSome = true ↔ sep <:+: cs.tail.dropLast := by
  constructor
  · intro h
    obtain ⟨⟨left, right⟩, hsplit⟩ := Option.isSome_iff_exists.1 h
    obtain ⟨rfl, hleft, hright⟩ := lastSplit?_eq_some hsplit
    refine ⟨left.tail, right.dropLast, ?_⟩
    rw [List.tail_append_of_ne_nil hleft,
      List.dropLast_append_of_ne_nil (List.append_ne_nil_of_right_ne_nil sep hright),
      List.dropLast_append_of_ne_nil hright, List.append_assoc]
  · rintro ⟨left, right, hcs⟩
    have hinner : cs.tail.dropLast ≠ [] := by
      rw [← hcs]
      exact List.append_ne_nil_of_left_ne_nil (List.append_ne_nil_of_right_ne_nil left hsep) right
    cases cs with
    | nil => exact absurd rfl hinner
    | cons c cs =>
        have hne : cs ≠ [] := by
          rintro rfl
          exact hinner rfl
        have hdivided : c :: cs = (c :: left) ++ (sep ++ (right ++ [cs.getLast hne])) := by
          rw [← List.append_assoc sep, List.cons_append, ← List.append_assoc left,
            ← List.append_assoc left, hcs, List.tail_cons, List.dropLast_append_getLast]
        rw [hdivided]
        exact lastSplit?_isSome sep (List.cons_ne_nil c left) (List.append_ne_nil_of_right_ne_nil _
          (List.cons_ne_nil _ _))

/-! ## Tokens -/

/-- What is read of a quoted text ends with a quote. -/
theorem closing?_eq_some {cs inner rest : List Char} (h : closing? cs = some (inner, rest)) :
    cs = inner ++ rest ∧ inner.getLast? = some '"' := by
  fun_induction closing? cs generalizing inner with
  | case1 => cases h
  | case2 cs =>
      cases h
      exact ⟨rfl, rfl⟩
  | case3 c cs ih =>
      obtain ⟨⟨inner', rest'⟩, hmore, heq⟩ := Option.map_eq_some_iff.1 h
      cases heq
      obtain ⟨rfl, hlast⟩ := ih hmore
      refine ⟨rfl, ?_⟩
      rw [List.getLast?_cons, List.getLast?_cons, hlast]
      rfl
  | case4 => cases h
  | case5 c cs _ _ _ ih =>
      obtain ⟨⟨inner', rest'⟩, hmore, heq⟩ := Option.map_eq_some_iff.1 h
      cases heq
      obtain ⟨rfl, hlast⟩ := ih hmore
      refine ⟨rfl, ?_⟩
      rw [List.getLast?_cons, hlast]
      rfl

/-- A text with a blank is no token, unless it begins and ends with a quote. -/
theorem isToken_eq_false {cs : List Char} (hblank : ' ' ∈ cs)
    (hquote : cs.head? ≠ some '"' ∨ cs.getLast? ≠ some '"') : isToken cs = false := by
  have hword : isWord cs = false := by
    have hany : cs.any isBlank = true := List.any_eq_true.2 ⟨' ', hblank, by decide⟩
    rw [isWord, hany, Bool.not_true, Bool.and_false]
  rw [isToken, hword, Bool.or_false]
  split
  · next w hfront =>
      exfalso
      unfold quotedFront? at hfront
      split at hfront
      · next cs =>
          obtain ⟨⟨inner, rest⟩, hclosing, heq⟩ := Option.map_eq_some_iff.1 hfront
          cases heq
          obtain ⟨rfl, hlast⟩ := closing?_eq_some hclosing
          refine hquote.elim (fun hne => hne rfl) fun hne => hne ?_
          rw [List.append_nil, List.getLast?_cons, hlast]
          rfl
      · cases hfront
  · rfl

/-- A text without a blank is a token. -/
theorem isToken_of_no_blank {cs : List Char} (hne : cs ≠ []) (h : ∀ c ∈ cs, isBlank c = false) :
    isToken cs = true := by
  have hempty : cs.isEmpty = false := List.isEmpty_eq_false_iff.2 hne
  have hany : cs.any isBlank = false :=
    List.any_eq_false.2 fun c hc => by rw [h c hc]; exact Bool.false_ne_true
  rw [isToken, isWord, hempty, hany]
  exact Bool.or_true _

/-- A word ends at the first blank. -/
theorem wordFront?_append {w : List Char} (hne : w ≠ []) (hw : ∀ c ∈ w, isBlank c = false)
    (rest : List Char) : wordFront? (w ++ ' ' :: rest) = some (w, ' ' :: rest) := by
  have hpos : ∀ c ∈ w, (!isBlank c) = true := fun c hc => by rw [hw c hc]; rfl
  have hstop : (!isBlank ' ') = false := by decide
  rw [wordFront?, List.span_eq_takeWhile_dropWhile, List.takeWhile_append_of_pos hpos,
    List.dropWhile_append_of_pos hpos, List.takeWhile_cons_of_neg (by rw [hstop]; decide),
    List.dropWhile_cons_of_neg (by rw [hstop]; decide), List.append_nil]
  cases w with
  | nil => exact absurd rfl hne
  | cons c w => rfl

/-- Printable ASCII is no blank, the space apart. -/
theorem isBlank_of_printable {c : Char} (h : 32 ≤ c.toNat ∧ c.toNat < 127) (hne : c ≠ ' ') :
    isBlank c = false := by
  have hspace : c.toNat ≠ 32 := fun e => hne (Char.toNat_inj.1 e)
  simp only [isBlank, Bool.or_eq_false_iff, Bool.and_eq_false_iff, decide_eq_false_iff_not,
    beq_eq_false_iff_ne]
  omega

private theorem isBlank_of_plain {c : Char} (h : IsPlain c) (hne : c ≠ ' ') : isBlank c = false :=
  isBlank_of_printable ⟨h.1, h.2.1⟩ hne

/-- A line is not taken for two words if what stands behind its first blank is no token. -/
theorem words_eq_none {w rest : List Char} (hne : w ≠ []) (hw : ∀ c ∈ w, isBlank c = false)
    (hrest : isToken rest = false) :
    tokenPair? wordFront? (w ++ ' ' :: rest) = none ∧ wordPair? (w ++ ' ' :: rest) = none := by
  have hword : isWord rest = false := (Bool.or_eq_false_iff.1 hrest).2
  constructor
  · rw [tokenPair?, wordFront?_append hne hw]
    simp only [hrest, Bool.false_eq_true, if_false]
  · rw [wordPair?, wordFront?_append hne hw]
    simp only [hword, Bool.false_eq_true, if_false]

/-- What stands behind any blank of a text ends what stands behind the first. -/
theorem suffix_of_first_blank {w r front back : List Char} (hw : ' ' ∉ w)
    (h : w ++ ' ' :: r = front ++ ' ' :: back) : back <:+ r := by
  rcases List.append_eq_append_iff.1 h with ⟨between, -, hr⟩ | ⟨between, hfront, hback⟩
  · cases between with
    | nil =>
        cases hr
        exact List.suffix_refl r
    | cons c between =>
        rw [List.cons_append, List.cons.injEq] at hr
        rw [hr.2]
        exact (List.suffix_cons ' ' back).trans (List.suffix_append between _)
  · cases between with
    | nil =>
        cases hback
        exact List.suffix_refl r
    | cons c between =>
        rw [List.cons_append, List.cons.injEq] at hback
        refine absurd ?_ hw
        rw [hfront, ← hback.1]
        exact List.mem_append_right front List.mem_cons_self

/-- A line is not taken for two tokens or two words if a blank stands behind the second of its
    blanks and its last character is no quote. -/
theorem words_eq_none_of_blank {cs front back : List Char} (hcs : cs = front ++ ' ' :: back)
    (hhead : ∀ c ∈ cs.head?, c ≠ ' ')
    (hprintable : ∀ c ∈ cs, 32 ≤ c.toNat ∧ c.toNat < 127)
    (hblank : ' ' ∈ back) (hlast : back.getLast? ≠ some '"') :
    tokenPair? wordFront? cs = none ∧ wordPair? cs = none := by
  have hmem : ' ' ∈ cs := by
    rw [hcs]
    exact List.mem_append_right front List.mem_cons_self
  -- the line is cut at its first blank
  obtain ⟨w, r, hline, hw⟩ := List.eq_append_cons_of_mem hmem
  have hsuffix : back <:+ r := suffix_of_first_blank hw (hline ▸ hcs)
  have hne : w ≠ [] := by
    rintro rfl
    exact hhead ' ' (by rw [hline]; rfl) rfl
  have hw' : ∀ c ∈ w, isBlank c = false := by
    intro c hc
    refine isBlank_of_printable (hprintable c ?_) (fun e => hw (e ▸ hc))
    rw [hline]
    exact List.mem_append_left _ hc
  have htoken : isToken r = false := by
    refine isToken_eq_false (hsuffix.subset hblank) (.inr ?_)
    obtain ⟨before, rfl⟩ := hsuffix
    rw [List.getLast?_append_of_ne_nil _ (List.ne_nil_of_mem hblank)]
    exact hlast
  rw [hline]
  exact words_eq_none hne hw' htoken

/-- A line is not taken for two tokens or two words if a plain text with a blank stands in front of
    one more blank. -/
theorem words_eq_none_of_plain {front : List Char} (hplain : ∀ c ∈ front, IsPlain c)
    (hhead : ∀ c ∈ front.head?, c ≠ ' ') (hblank : ' ' ∈ front) (rest : List Char) :
    tokenPair? wordFront? (front ++ ' ' :: rest) = none ∧
      wordPair? (front ++ ' ' :: rest) = none := by
  obtain ⟨w, v, rfl, hw⟩ := List.eq_append_cons_of_mem hblank
  have hne : w ≠ [] := by
    rintro rfl
    exact hhead ' ' rfl rfl
  have hword : ∀ c ∈ w, isBlank c = false := fun c hc =>
    isBlank_of_plain (hplain c (List.mem_append_left _ hc)) fun e => hw (e ▸ hc)
  -- what follows the first blank has a blank too, and does not begin with a quote
  have htoken : isToken (v ++ ' ' :: rest) = false := by
    refine isToken_eq_false (List.mem_append_right v List.mem_cons_self) (.inl fun e => ?_)
    cases v with
    | nil => exact absurd (Option.some.inj e) (by decide)
    | cons c v =>
        have hc : IsPlain c :=
          hplain c (List.mem_append_right w (List.mem_cons_of_mem _ List.mem_cons_self))
        exact hc.2.2.1 (Option.some.inj e)
  rw [List.append_assoc, List.cons_append]
  exact words_eq_none hne hword htoken

/-! ## The three ways -/

/-- A line is taken apart if it is in one of the three ways. -/
theorem headerPaths?_isSome_iff (rest : List Char) :
    (headerPaths? ("diff --git ".toList ++ rest)).isSome = true ↔
      (rest.contains '"' = true ∧
        (tokenPair? quotedFront? rest <|> tokenPair? wordFront? rest).isSome = true) ∨
      ((dropLead? "a/" rest).bind (lastSplit? divider)).isSome = true ∨
      (wordPair? rest).isSome = true := by
  have hrest : dropLead? "diff --git " ("diff --git ".toList ++ rest) = some rest :=
    after?_append _ _
  simp only [headerPaths?, hrest, bind, Option.bind_some]
  show _ ↔ _ ∨ ((dropLead? "a/" rest).bind (lastSplit? [' ', 'b', '/'])).isSome = true ∨ _
  generalize (tokenPair? quotedFront? rest <|> tokenPair? wordFront? rest) = tokens
  generalize (dropLead? "a/" rest).bind (lastSplit? [' ', 'b', '/']) = split
  generalize wordPair? rest = words
  cases rest.contains '"' <;> cases tokens <;> cases split <;> cases words <;> simp

/-- Without a quote a line is divided at the last divider. -/
theorem headerPaths?_divided {cs left right : List Char} (hquote : '"' ∉ cs)
    (h : lastSplit? divider cs = some (left, right)) :
    headerPaths? ("diff --git ".toList ++ ("a/".toList ++ cs))
      = some (String.ofList left, String.ofList right) := by
  have hrest : dropLead? "diff --git " ("diff --git ".toList ++ ("a/".toList ++ cs))
      = some ("a/".toList ++ cs) := after?_append _ _
  have hside : dropLead? "a/" ("a/".toList ++ cs) = some cs := after?_append _ _
  have hnone : ("a/".toList ++ cs).contains '"' = false := by
    rw [← Bool.not_eq_true, List.contains_iff_mem, List.mem_append, not_or]
    exact ⟨by decide, hquote⟩
  have hsplit : lastSplit? [' ', 'b', '/'] cs = some (left, right) := h
  simp only [headerPaths?, hrest, bind, Option.bind_some, hnone, Bool.false_eq_true, if_false,
    hside, hsplit]
  rfl

private theorem isBlank_oldLetter : ∀ c ∈ "a/".toList, isBlank c = false :=
  List.forall_mem_cons.2 ⟨by decide, List.forall_mem_singleton.2 (by decide)⟩

private theorem oldLetter_isPlain : ∀ c ∈ "a/".toList, IsPlain c :=
  List.forall_mem_cons.2 ⟨by decide, List.forall_mem_singleton.2 (by decide)⟩

private theorem newLetter_isPlain : ∀ c ∈ "b/".toList, IsPlain c :=
  List.forall_mem_cons.2 ⟨by decide, List.forall_mem_singleton.2 (by decide)⟩

/-- The line of two names without quotes. -/
theorem opening_plain {old new : List Char} (hold : needsQuotes old = false)
    (hnew : needsQuotes new = false) :
    opening old new = "diff --git ".toList ++ ("a/".toList ++ (old ++ (divider ++ new))) := by
  have hold' : needsQuotes ("a/".toList ++ old) = false := by
    rw [needsQuotes_append oldLetter_isPlain, hold]
  have hnew' : needsQuotes ("b/".toList ++ new) = false := by
    rw [needsQuotes_append newLetter_isPlain, hnew]
  unfold opening
  rw [shown_of_plain hold', shown_of_plain hnew', List.append_assoc "a/".toList]
  rfl

private theorem quote_not_mem_of_plain {cs : List Char} (h : needsQuotes cs = false) : '"' ∉ cs :=
  fun hmem => (needsQuotes_eq_false_iff.1 h _ hmem).2.2.1 rfl

/-- Two names without quotes are divided at the last divider. -/
theorem headerPaths?_plain {old new left right : List Char} (hold : needsQuotes old = false)
    (hnew : needsQuotes new = false)
    (h : lastSplit? divider (old ++ (divider ++ new)) = some (left, right)) :
    headerPaths? (opening old new) = some (String.ofList left, String.ofList right) := by
  have hquote : '"' ∉ old ++ (divider ++ new) := by
    rw [List.mem_append, List.mem_append, not_or, not_or]
    exact ⟨quote_not_mem_of_plain hold, by decide, quote_not_mem_of_plain hnew⟩
  rw [opening_plain hold hnew]
  exact headerPaths?_divided hquote h

/-- A name in quotes and one without are told apart exactly if the second has no blank. -/
theorem headerPaths?_quote_plain {new : List Char} (hnew : needsQuotes new = false)
    (old : List Char) :
    (headerPaths? ("diff --git ".toList ++ (quote old ++ ' ' :: ("b/".toList ++ new)))).isSome
      = true ↔ ' ' ∉ new := by
  have hplain : ∀ c ∈ "b/".toList ++ new, IsPlain c := by
    rw [← needsQuotes_eq_false_iff, needsQuotes_append newLetter_isPlain, hnew]
  have hmem : ' ' ∈ "b/".toList ++ new ↔ ' ' ∈ new := by
    rw [List.mem_append]
    exact or_iff_right (by decide)
  have hne : "b/".toList ++ new ≠ [] := List.cons_ne_nil _ _
  generalize "b/".toList ++ new = second at hplain hmem hne ⊢
  have hquote : (quote old ++ ' ' :: second).contains '"' = true := rfl
  have htokens : tokenPair? quotedFront? (quote old ++ ' ' :: second)
      = if isToken second then some (quote old, second) else none := by
    rw [tokenPair?, quotedFront?_quote]
    rfl
  have hside : dropLead? "a/" (quote old ++ ' ' :: second) = none := rfl
  rw [headerPaths?_isSome_iff, hquote, htokens, hside]
  constructor
  · intro hsome hblank
    rw [← hmem] at hblank
    have hlast : second.getLast? ≠ some '"' := fun e =>
      (hplain _ (List.mem_of_getLast? e)).2.2.1 rfl
    have htoken : isToken second = false := isToken_eq_false hblank (.inr hlast)
    have hprintable : ∀ c ∈ quote old ++ ' ' :: second, 32 ≤ c.toNat ∧ c.toNat < 127 := by
      rw [List.forall_mem_append, List.forall_mem_cons]
      exact ⟨printable_of_mem_quote, by decide, fun c hc => (hplain c hc).imp_right And.left⟩
    have hhead : ∀ c ∈ (quote old ++ ' ' :: second).head?, c ≠ ' ' := by
      intro c hc e
      cases hc
      cases e
    obtain ⟨htoken', hword⟩ := words_eq_none_of_blank rfl hhead hprintable hblank hlast
    rw [htoken, htoken', hword] at hsome
    simp at hsome
  · intro hblank
    rw [← hmem] at hblank
    have htoken : isToken second = true := isToken_of_no_blank hne fun c hc =>
      isBlank_of_plain (hplain c hc) fun e => hblank (e ▸ hc)
    rw [htoken]
    exact .inl ⟨rfl, rfl⟩

/-- A text that does not hold the character in the middle stands in front of it or behind it. -/
theorem infix_append_cons_iff {p : List Char} {s : Char} (hs : s ∉ p) (u v : List Char) :
    p <:+: u ++ s :: v ↔ p <:+: u ∨ p <:+: v := by
  -- what begins at that character and holds no such character is empty
  have hnil {q : List Char} (hq : s ∉ q) (hbegins : q <+: s :: v) : q = [] := by
    cases q with
    | nil => rfl
    | cons c q => exact absurd (List.mem_cons.2 (.inl (List.cons_prefix_cons.1 hbegins).1.symm)) hq
  rw [List.infix_append_iff, List.infix_cons_iff]
  constructor
  · rintro (hu | (hbegins | hv) | ⟨front, back, rfl, hfront, hback⟩)
    · exact .inl hu
    · rw [hnil hs hbegins]
      exact .inl List.nil_infix
    · exact .inr hv
    · rw [hnil (fun h => hs (List.mem_append_right front h)) hback, List.append_nil]
      exact .inl hfront.isInfix
  · rintro (hu | hv)
    · exact .inl hu
    · exact .inr (.inl (.inr hv))

/-- A divider stands in front of a blank and a quote, or behind them, and not across. -/
theorem divider_infix_iff (front back : List Char) :
    divider <:+: front ++ ' ' :: '"' :: back ↔ divider <:+: front ∨ divider <:+: back := by
  have hlast : ¬divider <:+ front ++ [' '] := by
    rw [List.suffix_concat_iff]
    rintro (h | ⟨init, h, -⟩)
    · cases h
    · have hlast := congrArg List.getLast? h
      rw [List.getLast?_concat] at hlast
      exact absurd hlast (by decide)
  rw [List.append_cons, infix_append_cons_iff (by decide), List.infix_concat_iff]
  exact or_congr_left (or_iff_right hlast)

/-- A name without quotes and one in quotes are told apart exactly if the first has no blank, or
    a divider stands in one of them. -/
theorem headerPaths?_plain_quote {old : List Char} (hold : needsQuotes old = false)
    (new : List Char) :
    (headerPaths? ("diff --git ".toList ++
      ("a/".toList ++ (old ++ ' ' :: quote ("b/".toList ++ new))))).isSome = true ↔
      ' ' ∉ old ∨ divider <:+: old.tail ∨ divider <:+: new := by
  have hplain := needsQuotes_eq_false_iff.1 hold
  have hnew : divider <:+: quotedText ("b/".toList ++ new) ↔ divider <:+: new := by
    refine (infix_quotedText_iff newLetter_isPlain _).trans ?_
    exact infix_append_of_no_blank (by decide) new
  rw [← hnew]
  generalize "b/".toList ++ new = second
  have hside : dropLead? "a/" ("a/".toList ++ (old ++ ' ' :: quote second))
      = some (old ++ ' ' :: quote second) := after?_append _ _
  have hquote : ("a/".toList ++ (old ++ ' ' :: quote second)).contains '"' = true := by
    rw [List.contains_iff_mem, quote_eq]
    simp only [List.mem_append, List.mem_cons, true_or, or_true]
  have hquoted : tokenPair? quotedFront? ("a/".toList ++ (old ++ ' ' :: quote second)) = none := rfl
  rw [headerPaths?_isSome_iff, hside, Option.bind_some, lastSplit?_isSome_iff (by decide), hquote,
    hquoted]
  by_cases hblank : ' ' ∈ old
  · have hfront : ∀ c ∈ "a/".toList ++ old, IsPlain c :=
      List.forall_mem_append.2 ⟨oldLetter_isPlain, hplain⟩
    have hhead : ∀ c ∈ ("a/".toList ++ old).head?, c ≠ ' ' := by
      intro c hc e
      cases hc
      cases e
    obtain ⟨hpair, hwords⟩ := words_eq_none_of_plain hfront hhead
      (List.mem_append_right "a/".toList hblank) (quote second)
    have hinner : (old ++ ' ' :: quote second).tail.dropLast
        = old.tail ++ ' ' :: '"' :: quotedText second := by
      rw [List.tail_append_of_ne_nil (List.ne_nil_of_mem hblank), quote_eq,
        List.dropLast_append_of_ne_nil (List.cons_ne_nil _ _), List.dropLast_cons_cons,
        ← List.cons_append, List.dropLast_concat]
    rw [← List.append_assoc, hpair, hwords, hinner, divider_infix_iff]
    simp [hblank]
  · refine iff_of_true (.inl ⟨rfl, ?_⟩) (.inl hblank)
    have hne : "a/".toList ++ old ≠ [] := List.cons_ne_nil _ _
    have hword : ∀ c ∈ "a/".toList ++ old, isBlank c = false := by
      rw [List.forall_mem_append]
      exact ⟨isBlank_oldLetter,
        fun c hc => isBlank_of_plain (hplain c hc) fun e => hblank (e ▸ hc)⟩
    rw [← List.append_assoc, tokenPair?, wordFront?_append hne hword]
    simp only [isToken_quote, if_true]
    rfl

/-! ## All four cases -/

/-- The line that opens the section of a file with these names can be taken apart. -/
def IsDivisible (old new : List Char) : Prop :=
  (needsQuotes old = true → needsQuotes new = false → ' ' ∉ new) ∧
    (needsQuotes old = false → needsQuotes new = true →
      ' ' ∉ old ∨ divider <:+: old.tail ∨ divider <:+: new)

instance (old new : List Char) : Decidable (IsDivisible old new) :=
  inferInstanceAs (Decidable (_ ∧ _))

/-- An opening line names two paths exactly if it can be taken apart. -/
theorem headerPaths?_opening_isSome_iff {old new : List Char} (hold : old ≠ []) (hnew : new ≠ []) :
    (headerPaths? (opening old new)).isSome = true ↔ IsDivisible old new := by
  have hside : needsQuotes ("a/".toList ++ old) = needsQuotes old :=
    needsQuotes_append oldLetter_isPlain old
  have hside' : needsQuotes ("b/".toList ++ new) = needsQuotes new :=
    needsQuotes_append newLetter_isPlain new
  unfold opening IsDivisible
  cases ho : needsQuotes old with
  | true =>
      rw [shown_of_needsQuotes (hside.trans ho)]
      cases hn : needsQuotes new with
      | true =>
          rw [shown_of_needsQuotes (hside'.trans hn)]
          refine iff_of_true ?_ ⟨nofun, nofun⟩
          exact Option.isSome_iff_exists.2 ⟨_, headerPaths?_quotedOpening old new⟩
      | false =>
          rw [shown_of_plain (hside'.trans hn), headerPaths?_quote_plain hn]
          exact ⟨fun h => ⟨fun _ _ => h, nofun⟩, fun h => h.1 rfl rfl⟩
  | false =>
      rw [shown_of_plain (hside.trans ho)]
      cases hn : needsQuotes new with
      | true =>
          rw [shown_of_needsQuotes (hside'.trans hn), List.append_assoc,
            headerPaths?_plain_quote ho]
          exact ⟨fun h => ⟨nofun, fun _ _ => h⟩, fun h => h.2 rfl rfl⟩
      | false =>
          refine iff_of_true ?_ ⟨nofun, nofun⟩
          obtain ⟨⟨left, right⟩, hsplit⟩ :=
            Option.isSome_iff_exists.1 (lastSplit?_isSome divider hold hnew)
          have hpaths := headerPaths?_plain ho hn hsplit
          unfold opening at hpaths
          rw [shown_of_plain (hside.trans ho)] at hpaths
          exact Option.isSome_iff_exists.2 ⟨_, hpaths⟩

/-! ## A text of one section -/

private theorem opening_isClean (old new : List Char) : IsClean (opening old new) := by
  have hblank : 32 ≤ ' '.toNat ∧ ' '.toNat < 127 := by decide
  have hnames : ∀ c ∈ shown ("a/".toList ++ old) ++ ' ' :: shown ("b/".toList ++ new),
      32 ≤ c.toNat ∧ c.toNat < 127 := by
    rw [List.forall_mem_append, List.forall_mem_cons]
    exact ⟨printable_of_mem_shown, hblank, printable_of_mem_shown⟩
  have hne : shown ("a/".toList ++ old) ++ ' ' :: shown ("b/".toList ++ new) ≠ [] :=
    List.append_ne_nil_of_right_ne_nil _ (List.cons_ne_nil _ _)
  exact (isClean_of_printable hnames).append (by decide) hne

/-- The first line of a section opens one. -/
theorem opensSection_opening (old new : List Char) : opensSection (opening old new) = true := rfl

/-- The text of an opening line and the lines below it. -/
def openedText (old new : List Char) (below : List Line) : String :=
  String.ofList ((opening old new :: below).flatMap fun l => l ++ ['\n'])

/-- The lines of the text of a section are read as they are written. -/
theorem read_openedText {old new : List Char} {below : List Line}
    (hbelow : ∀ l ∈ below, IsClean l) :
    read (openedText old new below) = readSections 1 (opening old new :: below) := by
  have hclean : ∀ l ∈ opening old new :: below, IsClean l :=
    List.forall_mem_cons.2 ⟨opening_isClean old new, hbelow⟩
  have hmark : ((opening old new :: below).flatMap fun l => l ++ ['\n']).head? ≠ some '\uFEFF' := by
    show some 'd' ≠ some '\uFEFF'
    decide
  rw [read, openedText, String.toList_ofList, linesOf_broken hclean hmark]

end DiffGauge.Diff
