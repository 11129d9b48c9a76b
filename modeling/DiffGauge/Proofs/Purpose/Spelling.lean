import DiffGauge.Purpose

/-!
# How a path is spelled

A path is spelled with slashes or backslashes between its segments, any number of them in one
place. Dots between separators, in front or at the end mean nothing, and neither do separators at
the end.

* `IsSpelling.segments_slashed` and `IsSpelling.rootOf_slashed` say that every spelling has the
  segments that it spells, and no root;
* what a file is for, whether it is a build script and which module it holds is read off the root
  and the segments of the normal spelling alone, so paths that have these in common are told apart
  nowhere (`Alike`);
* `classification_ignores_spelling` puts the two together.
-/

namespace DiffGauge.Path

open Text

/-! ## Spellings -/

/-- A slash or a backslash. -/
def IsSeparator (c : Char) : Prop := c = '/' ∨ c = '\\'

instance (c : Char) : Decidable (IsSeparator c) := inferInstanceAs (Decidable (_ ∨ _))

/-- A text that is one segment of a path: not empty, not a dot, and without separators. -/
structure IsSegment (p : String) : Prop where
  ne_empty : p ≠ ""
  ne_dot : p ≠ "."
  no_separator : ∀ c ∈ p.toList, ¬IsSeparator c

instance (p : String) : Decidable (IsSegment p) :=
  decidable_of_iff (p ≠ "" ∧ p ≠ "." ∧ p.toList.all (¬IsSeparator ·) = true)
    ⟨fun ⟨hempty, hdot, hall⟩ =>
        ⟨hempty, hdot, fun c hc => of_decide_eq_true (List.all_eq_true.1 hall c hc)⟩,
      fun h =>
        ⟨h.ne_empty, h.ne_dot,
          List.all_eq_true.2 fun c hc => decide_eq_true (h.no_separator c hc)⟩⟩

/-- What means nothing behind a segment: separators, and dots behind separators. -/
inductive IsFiller : List Char → Prop where
  | nothing : IsFiller []
  | separator {c : Char} {cs : List Char} : IsSeparator c → IsFiller cs → IsFiller (c :: cs)
  | dot {c : Char} {cs : List Char} : IsSeparator c → IsFiller cs → IsFiller (c :: '.' :: cs)

/-- A spelling of a path with the given segments: between neighbours stands a separator, there and
    at the end perhaps more that means nothing, and in front dots, each with a separator. -/
inductive IsSpelling : List String → List Char → Prop where
  | last {p : String} {filler : List Char} :
      IsFiller filler → IsSpelling [p] (p.toList ++ filler)
  | next {p : String} {ps : List String} {filler : List Char} {c : Char} {cs : List Char} :
      IsFiller filler → IsSeparator c → IsSpelling ps cs →
      IsSpelling (p :: ps) (p.toList ++ (filler ++ c :: cs))
  | here {ps : List String} {c : Char} {cs : List Char} :
      IsSeparator c → IsSpelling ps cs → IsSpelling ps ('.' :: c :: cs)

/-- Segments with single slashes between them are a spelling. -/
theorem isSpelling_joined {ps : List String} (hne : ps ≠ []) :
    IsSpelling ps (joined "/" ps).toList := by
  rw [joined, String.toList_intercalate]
  induction ps with
  | nil => exact absurd rfl hne
  | cons p ps ih =>
      cases ps with
      | nil =>
          have hlast : IsSpelling [p] (p.toList ++ []) := .last .nothing
          rw [List.append_nil] at hlast
          rw [List.map_singleton, List.intercalate_singleton]
          exact hlast
      | cons q ps =>
          have hrest := ih (List.cons_ne_nil q ps)
          rw [List.map_cons, List.map_cons, List.intercalate_cons_cons, List.append_assoc]
          exact .next .nothing (.inl rfl) hrest

/-! ## The segments of a spelling -/

private theorem slashed_cons_separator {c : Char} (h : IsSeparator c) (cs : List Char) :
    slashed (c :: cs) = '/' :: slashed cs := by
  rcases h with rfl | rfl
  · rfl
  · rfl

private theorem slashed_cons_dot (cs : List Char) : slashed ('.' :: cs) = '.' :: slashed cs := rfl

/-- What means nothing adds no segment. -/
theorem IsFiller.segments_append {filler : List Char} (h : IsFiller filler) (front : List Char) :
    segments (front ++ slashed filler) = segments front := by
  induction h generalizing front with
  | nothing => exact congrArg segments (List.append_nil front)
  | @separator c cs hc _ ih =>
      have hrest : segments (slashed cs) = [] := ih []
      rw [slashed_cons_separator hc, Path.segments_append, hrest, List.append_nil]
  | @dot c cs hc _ ih =>
      have hrest : segments ('.' :: slashed cs) = [] := ih ['.']
      rw [slashed_cons_separator hc, slashed_cons_dot, Path.segments_append, hrest,
        List.append_nil]

section Segment

variable {p : String} (h : IsSegment p)

include h

private theorem IsSegment.toList_ne_nil : p.toList ≠ [] :=
  fun e => h.ne_empty (String.toList_eq_nil_iff.1 e)

private theorem IsSegment.toList_ne_dot : p.toList ≠ ['.'] :=
  fun e => h.ne_dot (String.toList_inj.1 e)

private theorem IsSegment.slash_not_mem : '/' ∉ p.toList :=
  fun hmem => h.no_separator _ hmem (.inl rfl)

private theorem IsSegment.slashed_eq : slashed p.toList = p.toList :=
  slashed_eq_self fun hmem => h.no_separator _ hmem (.inr rfl)

private theorem IsSegment.segments_eq : segments p.toList = [p] := by
  rw [segments, pieces_of_not_mem h.slash_not_mem]
  simp [h.toList_ne_nil, h.toList_ne_dot]

/-- No dot in front is cut off a segment. -/
theorem IsSegment.dropDotSlash_append (cs : List Char) :
    dropDotSlash (p.toList ++ cs) = p.toList ++ cs := by
  rw [dropDotSlash]
  intro rest e
  -- a segment that begins with a dot goes on behind it, and not with a slash
  cases hp : p.toList with
  | nil => exact h.toList_ne_nil hp
  | cons c front =>
      rw [hp] at e
      cases front with
      | nil =>
          cases e
          exact h.toList_ne_dot hp
      | cons d front =>
          cases e
          have hslash := h.slash_not_mem
          rw [hp] at hslash
          exact hslash (List.mem_cons_of_mem _ List.mem_cons_self)

/-- A segment in front is no root. -/
theorem IsSegment.rootOf_append (cs : List Char) : rootOf (p.toList ++ cs) = [] := by
  obtain ⟨c, front, hp⟩ := List.exists_cons_of_ne_nil h.toList_ne_nil
  have hslash := h.slash_not_mem
  rw [hp] at hslash ⊢
  exact rootOf_cons (fun e => hslash (e ▸ List.mem_cons_self)) _

end Segment

/-- Every spelling has the segments that it spells. -/
theorem IsSpelling.segments_slashed {ps : List String} {cs : List Char} (h : IsSpelling ps cs)
    (hps : ∀ p ∈ ps, IsSegment p) : segments (slashed cs) = ps := by
  induction h with
  | last hfiller =>
      have hp := hps _ List.mem_cons_self
      rw [slashed_append, hp.slashed_eq, hfiller.segments_append, hp.segments_eq]
  | next hfiller hc _ ih =>
      obtain ⟨hp, hps⟩ := List.forall_mem_cons.1 hps
      rw [slashed_append, slashed_append, hp.slashed_eq, slashed_cons_separator hc,
        ← List.append_assoc, segments_append, hfiller.segments_append, hp.segments_eq, ih hps]
      rfl
  | here hc _ ih =>
      rw [slashed_cons_dot, slashed_cons_separator hc, ← ih hps]
      exact segments_append ['.'] _

/-- No spelling begins with a root once its dots in front are cut off. -/
theorem IsSpelling.rootOf_slashed {ps : List String} {cs : List Char} (h : IsSpelling ps cs)
    (hps : ∀ p ∈ ps, IsSegment p) : rootOf (dropDotSlash (slashed cs)) = [] := by
  induction h with
  | last hfiller =>
      have hp := hps _ List.mem_cons_self
      rw [slashed_append, hp.slashed_eq, hp.dropDotSlash_append, hp.rootOf_append]
  | next hfiller hc _ ih =>
      obtain ⟨hp, hps⟩ := List.forall_mem_cons.1 hps
      rw [slashed_append, hp.slashed_eq, hp.dropDotSlash_append, hp.rootOf_append]
  | here hc _ ih =>
      rw [slashed_cons_dot, slashed_cons_separator hc, dropDotSlash, ih hps]

/-! ## Paths that are told apart nowhere -/

/-- The normal spellings have the same root and the same segments. -/
structure Alike (path path' : String) : Prop where
  root : rootOf (normal path).toList = rootOf (normal path').toList
  segments : segments (normal path).toList = segments (normal path').toList

section Alike

variable {path path' : String} (h : Alike path path')

include h

private theorem Alike.normal_alike : Alike (normal path) (normal path') := by
  refine ⟨?_, ?_⟩
  · rw [normal_normal, normal_normal, h.root]
  · rw [normal_normal, normal_normal, h.segments]

private theorem Alike.parts_eq : parts (normal path) = parts (normal path') := by
  rw [parts, parts, h.root, h.segments]

private theorem Alike.dirs_eq : dirs (normal path) = dirs (normal path') := by
  rw [dirs, dirs, h.parts_eq]

private theorem Alike.name_eq : name (normal path) = name (normal path') := by
  rw [name, name, h.segments]

private theorem Alike.isBuildScript_eq (rules : Rules) :
    isBuildScript rules path = isBuildScript rules path' := by
  simp only [isBuildScript, h.name_eq, h.dirs_eq]

private theorem Alike.moduleOf_eq : moduleOf path = moduleOf path' := by
  rw [moduleOf, moduleOf, h.parts_eq]

private theorem Alike.ofPlace?_eq (rules : Rules) :
    Purpose.ofPlace? rules path = Purpose.ofPlace? rules path' := by
  simp only [Purpose.ofPlace?, h.dirs_eq, h.normal_alike.isBuildScript_eq]

private theorem Alike.purpose_eq
    (rules : Rules) (own enclosing : List Attribute) (modules : List String) :
    Purpose.of rules own enclosing modules path = Purpose.of rules own enclosing modules path' := by
  simp only [Purpose.of, h.ofPlace?_eq, h.dirs_eq]

end Alike

/-! ## Spellings of one path -/

/-- What can be spelled has a segment. -/
theorem IsSpelling.ne_nil {ps : List String} {cs : List Char} (h : IsSpelling ps cs) :
    ps ≠ [] := by
  induction h with
  | last _ => exact List.cons_ne_nil _ _
  | next _ _ _ _ => exact List.cons_ne_nil _ _
  | here _ _ ih => exact ih

/-- Two spellings of the same segments are alike. -/
theorem IsSpelling.alike {ps : List String} {path path' : String}
    (h : IsSpelling ps path.toList) (h' : IsSpelling ps path'.toList)
    (hps : ∀ p ∈ ps, IsSegment p) : Alike path path' := by
  constructor
  · rw [toList_normal, toList_normal, h.rootOf_slashed hps, h'.rootOf_slashed hps]
  · rw [toList_normal, toList_normal, segments_dropDotSlash, segments_dropDotSlash,
      h.segments_slashed hps, h'.segments_slashed hps]

/-- **How a path is spelled makes no difference**: whatever the rules, the attributes and the
    modules are, code has the same purpose in the file at any spelling of a path as in that at its
    segments with single slashes between them; the one is a build script exactly if the other is,
    and both hold the same module. -/
theorem classification_ignores_spelling {ps : List String} {path : String}
    (hps : ∀ p ∈ ps, IsSegment p) (h : IsSpelling ps path.toList) (rules : Rules)
    (own enclosing : List Attribute) (modules : List String) :
    Purpose.of rules own enclosing modules path
        = Purpose.of rules own enclosing modules (joined "/" ps)
      ∧ isBuildScript rules path = isBuildScript rules (joined "/" ps)
      ∧ moduleOf path = moduleOf (joined "/" ps) := by
  have halike : Alike path (joined "/" ps) := h.alike (isSpelling_joined h.ne_nil) hps
  exact ⟨halike.purpose_eq rules own enclosing modules, halike.isBuildScript_eq rules,
    halike.moduleOf_eq⟩

/-- The segments of a file of test code. -/
def utilitySegments : List String := ["tests", "src", "util.rs"]

/-- An odd spelling of `utilitySegments`. -/
def utilityPath : String := "./.\\tests\\/./src//util.rs/."

/-- A helper of tests, at a path with slashes and dots too many. -/
theorem classification_ignores_spelling_of_utilityPath :
    (∀ p ∈ utilitySegments, IsSegment p) ∧ IsSpelling utilitySegments utilityPath.toList ∧
      Purpose.of {} [] [] [] utilityPath = .testUtility ∧ isBuildScript {} utilityPath = false ∧
      moduleOf utilityPath = ["util"] := by
  have hps : ∀ p ∈ utilitySegments, IsSegment p := by decide
  have hlast : IsSpelling ["util.rs"] ("util.rs".toList ++ ['/', '.']) :=
    .last (.dot (.inl rfl) .nothing)
  have hsource : IsSpelling ["src", "util.rs"] ("src".toList ++ (['/'] ++ '/' :: _)) :=
    .next (.separator (.inl rfl) .nothing) (.inl rfl) hlast
  have htests : IsSpelling utilitySegments ("tests".toList ++ (['\\', '/', '.'] ++ '/' :: _)) :=
    .next (.separator (.inr rfl) (.dot (.inl rfl) .nothing)) (.inl rfl) hsource
  have h : IsSpelling utilitySegments utilityPath.toList :=
    .here (.inl rfl) (.here (.inr rfl) htests)
  obtain ⟨hpurpose, hscript, hmodule⟩ := classification_ignores_spelling hps h {} [] [] []
  refine ⟨hps, h, hpurpose.trans ?_, hscript.trans ?_, hmodule.trans ?_⟩
  · decide +kernel
  · decide +kernel
  · decide +kernel

/-- Two separators behind a dot in front are no spelling: the path has a root. -/
example : parts (normal ".//util.rs") = ["/", "util.rs"] := by decide +kernel

end DiffGauge.Path
