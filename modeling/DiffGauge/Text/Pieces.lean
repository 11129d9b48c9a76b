import DiffGauge.Text.Blank

/-!
# Pieces of a text

Cutting a text at a separator, finding one text inside another, and taking a known beginning
off a text.
-/

namespace DiffGauge.Text

/-- Some items divided at those that pass a test, which are dropped: `n` of them make `n + 1`
    groups. -/
def divideAt {α : Type} (p : α → Bool) : List α → List (List α)
  | [] => [[]]
  | x :: xs =>
    if p x then [] :: divideAt p xs
    else
      match divideAt p xs with
      | [] => [[x]]
      | group :: groups => (x :: group) :: groups

/-- The pieces of a text between the separators. -/
def pieces (sep : Char) (cs : List Char) : List (List Char) := divideAt (· == sep) cs

/-- What follows `lead` in a text that begins with it. -/
def after? : List Char → List Char → Option (List Char)
  | [], cs => some cs
  | _ :: _, [] => none
  | l :: ls, c :: cs => if l = c then after? ls cs else none

/-- What follows a known beginning of a text. -/
def dropLead? (lead : String) (cs : List Char) : Option (List Char) := after? lead.toList cs

/-- A text that begins with `lead`. -/
def hasLead (lead : String) (cs : List Char) : Bool := (dropLead? lead cs).isSome

/-- A text that ends with `tail`. -/
def hasTail (tail : String) (cs : List Char) : Bool :=
  (after? tail.toList.reverse cs.reverse).isSome

/-- A text without a known beginning, if it has it. -/
def withoutLead (lead : String) (cs : List Char) : List Char := (dropLead? lead cs).getD cs

/-- Every end of a text, the whole first and the empty one last. -/
def suffixes : List Char → List (List Char)
  | [] => [[]]
  | c :: cs => (c :: cs) :: suffixes cs

/-- `part` stands somewhere inside the text. -/
def holds (part cs : List Char) : Bool := (suffixes cs).any fun s => (after? part s).isSome

/-- `part` stands somewhere inside the string. -/
def holdsString (part s : String) : Bool := holds part.toList s.toList

/-- Texts joined with a separator between neighbours. -/
def joined (sep : String) (ss : List String) : String := sep.intercalate ss

/-- An ASCII letter in lower case, any other character as it is. -/
def asciiLower (s : String) : String := String.ofList (s.toList.map Char.toLower)

/-! ## Dividing -/

section Dividing

variable {α : Type} {p : α → Bool}

private theorem divideAt_ne_nil (xs : List α) : divideAt p xs ≠ [] := by
  cases xs with
  | nil => exact List.cons_ne_nil _ _
  | cons x xs =>
      rw [divideAt]
      split
      · exact List.cons_ne_nil _ _
      · split
        · exact List.cons_ne_nil _ _
        · exact List.cons_ne_nil _ _

private theorem divideAt_cons_of_pos {x : α} (hx : p x = true) (xs : List α) :
    divideAt p (x :: xs) = [] :: divideAt p xs := by
  rw [divideAt, if_pos hx]

/-- An item that is no divider goes to the first group of the others. -/
theorem divideAt_cons_of_neg {x : α} (hx : p x = false) {xs group : List α}
    {groups : List (List α)} (h : divideAt p xs = group :: groups) :
    divideAt p (x :: xs) = (x :: group) :: groups := by
  rw [divideAt, if_neg (Bool.not_eq_true _ ▸ hx), h]

/-- What stands on both sides of a divider is divided on its own. -/
theorem divideAt_append {x : α} (hx : p x = true) (xs ys : List α) :
    divideAt p (xs ++ x :: ys) = divideAt p xs ++ divideAt p ys := by
  induction xs with
  | nil => exact divideAt_cons_of_pos hx ys
  | cons y xs ih =>
      rw [List.cons_append]
      cases hy : p y with
      | true => rw [divideAt_cons_of_pos hy, divideAt_cons_of_pos hy, ih, List.cons_append]
      | false =>
          obtain ⟨group, groups, h⟩ := List.exists_cons_of_ne_nil (divideAt_ne_nil xs)
          rw [h, List.cons_append] at ih
          rw [divideAt_cons_of_neg hy ih, divideAt_cons_of_neg hy h, List.cons_append]

/-- Where no item divides there is one piece. -/
theorem divideAt_of_none {xs : List α} (h : ∀ x ∈ xs, p x = false) : divideAt p xs = [xs] := by
  induction xs with
  | nil => rfl
  | cons x xs ih =>
      obtain ⟨hx, hxs⟩ := List.forall_mem_cons.1 h
      exact divideAt_cons_of_neg hx (ih hxs)

end Dividing

/-- There is always a piece. -/
theorem pieces_ne_nil (sep : Char) (cs : List Char) : pieces sep cs ≠ [] := divideAt_ne_nil cs

/-- A separator in front leaves an empty first piece. -/
theorem pieces_cons_self (sep : Char) (cs : List Char) :
    pieces sep (sep :: cs) = [] :: pieces sep cs :=
  divideAt_cons_of_pos (p := (· == sep)) (beq_self_eq_true sep) cs

/-- A character in front of a text goes to its first piece, unless it is the separator. -/
theorem pieces_cons {sep c : Char} (h : c ≠ sep) {cs p : List Char} {ps : List (List Char)}
    (hcs : pieces sep cs = p :: ps) : pieces sep (c :: cs) = (c :: p) :: ps :=
  divideAt_cons_of_neg (p := (· == sep)) (beq_false_of_ne h) hcs

/-- A separator divides the pieces in front of it from those after it. -/
theorem pieces_append (sep : Char) (front back : List Char) :
    pieces sep (front ++ sep :: back) = pieces sep front ++ pieces sep back :=
  divideAt_append (p := (· == sep)) (beq_self_eq_true sep) front back

/-- A text without a separator is its only piece. -/
theorem pieces_of_not_mem {sep : Char} {cs : List Char} (h : sep ∉ cs) : pieces sep cs = [cs] :=
  divideAt_of_none fun _ hc => beq_false_of_ne fun heq => h (heq ▸ hc)

/-! ## Beginnings -/

/-- What comes after a lead is the rest behind it. -/
theorem after?_eq_some_iff {lead cs rest : List Char} :
    after? lead cs = some rest ↔ cs = lead ++ rest := by
  induction lead generalizing cs with
  | nil => simp [after?]
  | cons l ls ih =>
    cases cs with
    | nil => simp [after?]
    | cons c cs =>
      by_cases h : l = c
      · simp [after?, h, ih]
      · simp [after?, h, Ne.symm h]

/-- The lead is found in front of every rest. -/
theorem after?_append (lead rest : List Char) : after? lead (lead ++ rest) = some rest :=
  after?_eq_some_iff.2 rfl

end DiffGauge.Text
