import DiffGauge.Text.Pieces

/-!
# Paths

A path is spelled with slashes or backslashes; repeated separators and `.` segments mean
nothing, a leading slash is a part of its own. Two spellings with the same parts are the same
path.
-/

namespace DiffGauge.Path

open Text

/-- Backslashes read as slashes. -/
def slashed (cs : List Char) : List Char := cs.map fun c => if c = '\\' then '/' else c

/-- A text without the `./` in front of it. -/
def dropDotSlash : List Char → List Char
  | '.' :: '/' :: cs => dropDotSlash cs
  | cs => cs

/-- The normal spelling of a path: slashes only, and no `./` in front. -/
def normal (path : String) : String := String.ofList (dropDotSlash (slashed path.toList))

/-- The root of an absolute path. Exactly two leading slashes are a root of their own. -/
def rootOf : List Char → List String
  | '/' :: '/' :: '/' :: _ => ["/"]
  | '/' :: '/' :: _ => ["//"]
  | '/' :: _ => ["/"]
  | _ => []

/-- The segments between separators that mean something. -/
def segments (cs : List Char) : List String :=
  ((pieces '/' cs).filter fun p => p ≠ [] && p ≠ ['.']).map String.ofList

/-- The root, if any, and the segments of a path. -/
def parts (path : String) : List String := rootOf path.toList ++ segments path.toList

/-- The spelling of a list of parts: the root stands before the first segment, slashes stand
    between segments, and a path without parts is a dot. -/
def spell : List String → String
  | [] => "."
  | p :: ps => if p = "/" || p = "//" then p ++ joined "/" ps else joined "/" (p :: ps)

/-- The tidy spelling of a path. -/
def tidy (path : String) : String := spell (parts path)

/-- The path is absolute. -/
def isAbsolute (path : String) : Bool := !(rootOf path.toList).isEmpty

/-- The path `path` seen from `base`. -/
def within (base path : String) : String :=
  if isAbsolute path then tidy path else spell (parts base ++ parts path)

/-- The directories of a path. -/
def dirs (path : String) : List String := (parts path).dropLast

/-- The last segment of a path; a root has none. -/
def name (path : String) : String := (segments path.toList).getLast?.getD ""

/-- The last segment without its last suffix. A dot at either end begins no suffix. -/
def stem (path : String) : String :=
  let cs := (name path).toList
  match cs.reverse.span (· != '.') with
  | (_, []) => String.ofList cs
  | ([], _) => String.ofList cs
  | (_, _ :: front) => if front.isEmpty then String.ofList cs else String.ofList front.reverse

/-! ## Laws -/

/-- Backslashes are replaced piece by piece. -/
theorem slashed_append (front back : List Char) :
    slashed (front ++ back) = slashed front ++ slashed back :=
  List.map_append

/-- Without backslashes there is nothing to replace. -/
theorem slashed_eq_self {cs : List Char} (h : '\\' ∉ cs) : slashed cs = cs := by
  have hsame : ∀ c ∈ cs, (if c = '\\' then '/' else c) = id c := by
    intro c hc
    have hne : c ≠ '\\' := fun e => h (e ▸ hc)
    rw [if_neg hne, id]
  exact (List.map_congr_left hsame).trans (List.map_id cs)

/-- The segments before a slash come before those after it. -/
theorem segments_append (front back : List Char) :
    segments (front ++ '/' :: back) = segments front ++ segments back := by
  rw [segments, pieces_append, List.filter_append, List.map_append]
  rfl

/-- Only a slash in front makes a root. -/
theorem rootOf_cons {c : Char} (h : c ≠ '/') (cs : List Char) : rootOf (c :: cs) = [] := by
  simp [rootOf, h]

/-- A dot in front adds no segment. -/
theorem segments_dropDotSlash (cs : List Char) : segments (dropDotSlash cs) = segments cs := by
  fun_induction dropDotSlash cs with
  | case1 cs ih =>
      rw [ih]
      exact (segments_append ['.'] cs).symm
  | case2 cs _ => rfl

/-- What is left of a text is an end of it. -/
theorem dropDotSlash_suffix (cs : List Char) : dropDotSlash cs <:+ cs := by
  fun_induction dropDotSlash cs with
  | case1 cs ih => exact ih.trans ⟨['.', '/'], rfl⟩
  | case2 cs _ => exact List.suffix_refl cs

private theorem dropDotSlash_dropDotSlash (cs : List Char) :
    dropDotSlash (dropDotSlash cs) = dropDotSlash cs := by
  fun_induction dropDotSlash cs with
  | case1 cs ih => exact ih
  | case2 cs hnot => rw [dropDotSlash]; exact hnot

private theorem backslash_not_mem_slashed (cs : List Char) : '\\' ∉ slashed cs := by
  intro hmem
  obtain ⟨c, -, hc⟩ := List.mem_map.1 hmem
  split at hc
  · cases hc
  · next hne => exact hne hc

/-- The characters of a normal path. -/
theorem toList_normal (path : String) : (normal path).toList = dropDotSlash (slashed path.toList) :=
  String.toList_ofList

/-- The normal spelling is its own normal spelling. -/
theorem normal_normal (path : String) : normal (normal path) = normal path := by
  have hclean : '\\' ∉ (normal path).toList := by
    rw [toList_normal]
    exact fun hmem => backslash_not_mem_slashed _ ((dropDotSlash_suffix _).subset hmem)
  rw [← String.toList_inj, toList_normal (normal path), slashed_eq_self hclean, toList_normal,
    dropDotSlash_dropDotSlash]

end DiffGauge.Path
