import DiffGauge.Diff.Basic

/-!
# The two sides of a hunk

The old side of a hunk is its context and its removed lines, the new side its context and its
added lines. A hunk is exact if its header states how many lines each side has, and consecutive
if the lines of each side are numbered one after the other from the line that the header states.

The lines of a consecutive hunk all have the number that their kind asks for
(`NumberedFrom.isNumbered`).
-/

namespace DiffGauge.Diff

/-- Lines of the kind stand on the old side. -/
def LineKind.onOld : LineKind → Bool
  | .added => false
  | .context | .removed => true

/-- Lines of the kind stand on the new side. -/
def LineKind.onNew : LineKind → Bool
  | .removed => false
  | .context | .added => true

/-- The lines of the old side. -/
def oldSide (lines : List HunkLine) : List HunkLine := lines.filter (·.kind.onOld)

/-- The lines of the new side. -/
def newSide (lines : List HunkLine) : List HunkLine := lines.filter (·.kind.onNew)

/-- The numbers are all there and count up from the first. -/
def CountsUp (first : Int) : List (Option Int) → Prop
  | [] => True
  | n :: ns => n = some first ∧ CountsUp (first + 1) ns

instance CountsUp.decidable (first : Int) (ns : List (Option Int)) :
    Decidable (CountsUp first ns) :=
  match ns with
  | [] => isTrue trivial
  | n :: ns =>
    have := CountsUp.decidable (first + 1) ns
    inferInstanceAs (Decidable (n = some first ∧ CountsUp (first + 1) ns))

/-- The header states how many lines each side has. -/
structure Hunk.IsExact (h : Hunk) : Prop where
  oldCount : h.oldCount = (oldSide h.lines).length
  newCount : h.newCount = (newSide h.lines).length

/-- The lines of the old side are numbered one after the other from `old`, those of the new side
    from `new`. -/
structure NumberedFrom (old new : Int) (lines : List HunkLine) : Prop where
  oldNumbers : CountsUp old ((oldSide lines).map (·.oldNo))
  newNumbers : CountsUp new ((newSide lines).map (·.newNo))

/-- The lines of each side are numbered one after the other from the line that the header
    states. -/
def Hunk.IsConsecutive (h : Hunk) : Prop := NumberedFrom h.oldStart h.newStart h.lines

/-- The old side of two parts. -/
theorem oldSide_append (xs ys : List HunkLine) :
    oldSide (xs ++ ys) = oldSide xs ++ oldSide ys := by
  rw [oldSide, List.filter_append]
  rfl

/-- The new side of two parts. -/
theorem newSide_append (xs ys : List HunkLine) :
    newSide (xs ++ ys) = newSide xs ++ newSide ys := by
  rw [newSide, List.filter_append]
  rfl

/-- A line counts for the old side if it stands there. -/
theorem length_oldSide_cons (l : HunkLine) (ls : List HunkLine) :
    (oldSide (l :: ls)).length = (oldSide ls).length + if l.kind.onOld then 1 else 0 := by
  rw [oldSide, List.filter_cons]
  split
  · rfl
  · rfl

/-- A line counts for the new side if it stands there. -/
theorem length_newSide_cons (l : HunkLine) (ls : List HunkLine) :
    (newSide (l :: ls)).length = (newSide ls).length + if l.kind.onNew then 1 else 0 := by
  rw [newSide, List.filter_cons]
  split
  · rfl
  · rfl

/-- Numbers that count up go on counting up where a part of them ends. -/
theorem countsUp_append {first : Int} {ms ns : List (Option Int)} :
    CountsUp first (ms ++ ns) ↔ CountsUp first ms ∧ CountsUp (first + ms.length) ns := by
  induction ms generalizing first with
  | nil => simp [CountsUp]
  | cons m ms ih =>
      simp only [List.cons_append, CountsUp, ih, List.length_cons, and_assoc]
      rw [show first + 1 + (ms.length : Int) = first + ((ms.length + 1 : Nat) : Int) by omega]

private theorem isSome_of_countsUp {first : Int} {ns : List (Option Int)} (h : CountsUp first ns) :
    ∀ n ∈ ns, n.isSome = true := by
  induction ns generalizing first with
  | nil => exact List.forall_mem_nil _
  | cons m ns ih =>
      obtain ⟨rfl, hns⟩ := h
      intro n hn
      rcases List.mem_cons.1 hn with rfl | hn
      · rfl
      · exact ih hns n hn

/-- A part of the lines is numbered where the part before it ends. -/
theorem numberedFrom_append {old new : Int} {xs ys : List HunkLine} :
    NumberedFrom old new (xs ++ ys) ↔
      NumberedFrom old new xs ∧
      NumberedFrom (old + (oldSide xs).length) (new + (newSide xs).length) ys := by
  constructor
  · rintro ⟨hold, hnew⟩
    rw [oldSide_append, List.map_append, countsUp_append, List.length_map] at hold
    rw [newSide_append, List.map_append, countsUp_append, List.length_map] at hnew
    exact ⟨⟨hold.1, hnew.1⟩, ⟨hold.2, hnew.2⟩⟩
  · rintro ⟨⟨xold, xnew⟩, ⟨yold, ynew⟩⟩
    constructor
    · rw [oldSide_append, List.map_append, countsUp_append, List.length_map]
      exact ⟨xold, yold⟩
    · rw [newSide_append, List.map_append, countsUp_append, List.length_map]
      exact ⟨xnew, ynew⟩

/-- Lines whose sides are numbered have the number that their kind asks for. -/
theorem NumberedFrom.isNumbered {old new : Int} {lines : List HunkLine}
    (h : NumberedFrom old new lines) : ∀ l ∈ lines, l.IsNumbered := by
  intro l hl
  show l.number?.isSome = true
  rw [HunkLine.number?]
  cases hk : l.kind with
  | removed =>
      have hside : l ∈ oldSide lines := List.mem_filter.2 ⟨hl, by rw [hk]; rfl⟩
      exact isSome_of_countsUp h.oldNumbers _ (List.mem_map_of_mem hside)
  | context =>
      have hside : l ∈ newSide lines := List.mem_filter.2 ⟨hl, by rw [hk]; rfl⟩
      exact isSome_of_countsUp h.newNumbers _ (List.mem_map_of_mem hside)
  | added =>
      have hside : l ∈ newSide lines := List.mem_filter.2 ⟨hl, by rw [hk]; rfl⟩
      exact isSome_of_countsUp h.newNumbers _ (List.mem_map_of_mem hside)

end DiffGauge.Diff
