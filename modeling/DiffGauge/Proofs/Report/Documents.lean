import DiffGauge.Proofs.Gate.Additivity
import DiffGauge.Proofs.Gate.Monotone
import DiffGauge.Report.Document

/-!
# The document of a run accounts for it

The document of a run is put together from the result, its summary and the outcome of the gate, and
leaves out the purposes that no change serves. What it says can be read back from the document
alone: its parts say the same of the changes, and no change is lost in it.

* `Document.field`, `Document.items` and the like read a document;
* `entry_rows` and `total_rows` read the counts of a summary, the rows that are left out included;
* `changeDocument_injective` tells changes apart by their documents;
* `document_accounts` is the statement about all that a document says.
-/

namespace DiffGauge.Report

open Analysis Gate

/-! ## Reading documents -/

namespace Document

/-- The fields of a record. -/
def fields : Document → List (String × Document)
  | .record fields => fields
  | _ => []

/-- The items of a list. -/
def items : Document → List Document
  | .list items => items
  | _ => []

/-- A field of a record, or nothing. -/
def field (d : Document) (name : String) : Document := (d.fields.lookup name).getD .nothing

/-- The number that a document is. Without one it is zero. -/
def number : Document → Int
  | .integer n => n
  | _ => 0

/-- The text that a document is. -/
def text? : Document → Option String
  | .text s => some s
  | _ => none

/-- The flag that a document is. -/
def flag? : Document → Option Bool
  | .flag b => some b
  | _ => none

/-- A record without one of its fields. -/
def without (d : Document) (name : String) : Document :=
  .record (d.fields.filter fun f => f.1 != name)

end Document

/-! ## Rows of counts -/

private theorem purposeText_injective : Function.Injective Purpose.text := by
  intro p q h
  cases p <;> cases q <;> simp_all [Purpose.text]

private theorem kindText_injective : Function.Injective ChangeKind.text := by
  intro k l h
  cases k <;> cases l <;> simp_all [ChangeKind.text]

/-- A row is found under its key, if it was not left out. -/
theorem lookup_rows {α β : Type} {key : α → String} (hkey : Function.Injective key) (value : α → β)
    (kept : α → Bool) {xs : List α} {x : α} (hx : x ∈ xs) :
    List.lookup (key x) ((xs.filter kept).map fun y => (key y, value y))
      = if kept x then some (value x) else none := by
  induction xs with
  | nil => exact nomatch hx
  | cons y ys ih =>
      by_cases hxy : x = y
      · subst hxy
        by_cases hkept : kept x = true
        · rw [List.filter_cons_of_pos hkept, if_pos hkept, List.map_cons, List.lookup_cons,
            beq_self_eq_true]
        · rw [List.filter_cons_of_neg hkept, if_neg hkept, List.lookup_eq_none_iff]
          intro row hrow
          obtain ⟨z, hz, rfl⟩ := List.mem_map.1 hrow
          rw [bne_iff_ne]
          intro hsame
          rw [hkey hsame] at hkept
          exact hkept (List.mem_filter.1 hz).2
      · have hmem : x ∈ ys := (List.mem_cons.1 hx).resolve_left hxy
        have hne : (key x == key y) = false := beq_eq_false_iff_ne.2 fun h => hxy (hkey h)
        by_cases hkept : kept y = true
        · rw [List.filter_cons_of_pos hkept, List.map_cons, List.lookup_cons, hne]
          exact ih hmem
        · rw [List.filter_cons_of_neg hkept]
          exact ih hmem

/-- The rows of a summary, one for each purpose that some change serves. -/
def rows (s : Summary) : Document :=
  .record ((Purpose.all.filter (isCounted s)).map fun p => (p.text, countsDocument s p))

/-- All counts of rows. -/
def countsIn (d : Document) : List Int :=
  d.fields.flatMap fun row => row.2.fields.map fun f => f.2.number

private theorem countsDocument_field (s : Summary) (p : Purpose) (k : ChangeKind) :
    ((countsDocument s p).field k.text).number = s.count p k := by
  cases k <;> rfl

private theorem count_eq_zero_of_not_isCounted
    {s : Summary} {p : Purpose} (h : ¬isCounted s p = true)
    (k : ChangeKind) : s.count p k = 0 := by
  rw [isCounted, List.any_eq_true] at h
  by_contra hne
  exact h ⟨k, k.mem_all, bne_iff_ne.2 hne⟩

/-- A row has the counts of its purpose. One that is left out would have none. -/
theorem entry_rows (s : Summary) (p : Purpose) (k : ChangeKind) :
    (((rows s).field p.text).field k.text).number = s.count p k := by
  have hrow : (rows s).field p.text
      = (if isCounted s p then some (countsDocument s p) else none).getD .nothing := by
    rw [← lookup_rows purposeText_injective (countsDocument s) (isCounted s) p.mem_all]
    rfl
  rw [hrow]
  by_cases hcounted : isCounted s p = true
  · rw [if_pos hcounted]
    exact countsDocument_field s p k
  · rw [if_neg hcounted, count_eq_zero_of_not_isCounted hcounted]
    rfl

/-- The counts of all rows come to those of all purposes and kinds. -/
theorem total_rows (s : Summary) :
    total (countsIn (rows s)) = total (countKeys.map fun key => s.count key.1 key.2) := by
  have hcounts : countsIn (rows s)
      = (Purpose.all.filter (isCounted s)).flatMap fun p =>
          ChangeKind.all.map fun k => s.count p k := by
    rw [countsIn, rows]
    show List.flatMap _ (List.map _ _) = _
    rw [List.flatMap_map]
    rfl
  have hkeys : (countKeys.map fun key => s.count key.1 key.2)
      = Purpose.all.flatMap fun p => ChangeKind.all.map fun k => s.count p k := by
    rw [countKeys, List.map_flatMap]
    rfl
  rw [hcounts, hkeys]
  refine sum_flatMap_filter (fun p hp => ?_) _
  have hzero : (ChangeKind.all.map fun k => s.count p k) = ChangeKind.all.map fun _ => 0 :=
    List.map_congr_left fun k _ => count_eq_zero_of_not_isCounted hp k
  rw [hzero, List.sum_map_zero]

/-! ## Changes -/

private theorem textOrNothing_injective : Function.Injective textOrNothing := by
  intro s t h
  cases s with
  | none =>
      cases t with
      | none => rfl
      | some t => exact nomatch h
  | some s =>
      cases t with
      | none => exact nomatch h
      | some t => exact congrArg some (Document.text.inj h)

private theorem unitKindText_injective : Function.Injective UnitKind.text := by
  intro k l h
  cases k <;> cases l <;> simp_all [UnitKind.text]

private theorem visibilityText_injective : Function.Injective Visibility.text := by
  intro v w h
  cases v <;> cases w <;> simp_all [Visibility.text]

/-- Changes that differ have documents that differ. -/
theorem changeDocument_injective : Function.Injective changeDocument := by
  intro c d h
  have hfield (name : String) : (changeDocument c).field name = (changeDocument d).field name :=
    congrArg (Document.field · name) h
  have hfile : c.file = d.file := Document.text.inj (hfield "file")
  have hkind : c.kind = d.kind := kindText_injective (Document.text.inj (hfield "kind"))
  have hunit : c.unit.kind.map UnitKind.text = d.unit.kind.map UnitKind.text :=
    textOrNothing_injective (hfield "unit")
  have hname : c.unit.name = d.unit.name := Document.text.inj (hfield "name")
  have hvisibility : c.unit.visibility = d.unit.visibility :=
    visibilityText_injective (Document.text.inj (hfield "visibility"))
  have hpurpose : c.unit.purpose = d.unit.purpose :=
    purposeText_injective (Document.text.inj (hfield "code_type"))
  have hfirst : (c.unit.span.first : Int) = d.unit.span.first :=
    Document.integer.inj (hfield "start_line")
  have hlast : (c.unit.span.last : Int) = d.unit.span.last :=
    Document.integer.inj (hfield "end_line")
  have hadded : c.added = d.added := Document.integer.inj (hfield "added")
  have hremoved : c.removed = d.removed := Document.integer.inj (hfield "removed")
  have hunitKind := Option.map_injective unitKindText_injective hunit
  obtain ⟨file, ⟨unitKind, name, visibility, ⟨first, last, _, _⟩, purpose⟩, kind, added,
    removed⟩ := c
  obtain ⟨file', ⟨unitKind', name', visibility', ⟨first', last', _, _⟩, purpose'⟩, kind', added',
    removed'⟩ := d
  dsimp only at *
  obtain rfl := Int.ofNat.inj hfirst
  obtain rfl := Int.ofNat.inj hlast
  subst hfile hkind hname hvisibility hpurpose hadded hremoved hunitKind
  rfl

/-- A listed change serves a purpose and is of a kind. -/
def isListedAs (p : Purpose) (k : ChangeKind) (d : Document) : Bool :=
  (d.field "code_type").text? == some p.text && (d.field "kind").text? == some k.text

private theorem isListedAs_changeDocument (p : Purpose) (k : ChangeKind) (c : Change) :
    isListedAs p k (changeDocument c) = isOf p k c := by
  show (some c.unit.purpose.text == some p.text && some c.kind.text == some k.text) = _
  rw [Bool.eq_iff_iff, isOf_iff, Bool.and_eq_true, beq_iff_eq, beq_iff_eq, Option.some.injEq,
    Option.some.injEq, purposeText_injective.eq_iff, kindText_injective.eq_iff]

/-- Every file was analysed or passed over. -/
theorem length_analyzedFiles_add (r : Result) :
    r.analyzedFiles.length + r.skippedFiles.length = r.files.length := by
  rw [Result.analyzedFiles, Result.skippedFiles]
  induction r.files with
  | nil => rfl
  | cons f fs ih =>
      cases hf : f.skipped with
      | none =>
          simp only [List.filter_cons, hf, Option.isNone_none, Option.isSome_none, if_true,
            Bool.false_eq_true, if_false, List.length_cons]
          omega
      | some reason =>
          simp only [List.filter_cons, hf, Option.isNone_some, Option.isSome_some, if_true,
            Bool.false_eq_true, if_false, List.length_cons]
          omega

/-! ## The whole document -/

/-- A result with its summary and the violations of limits. -/
def judged (result : Result) (w : Weights) (l : Limits) (showsDetails : Bool) : Run where
  result
  summary := summarize w result.changes
  violations := (evaluate l (summarize w result.changes)).violations
  showsDetails

/-- The document of a run says of the changes that it lists how many there are, and how many lines
    they have, in the other fields as well; and it says that the run passed exactly if no limit is
    exceeded. -/
structure Document.Accounts (d : Document) (result : Result) : Prop where
  files : (d.field "analyzed_files").number + (d.field "skipped_files").items.length
    = result.files.length
  entries : ∀ p k,
    ((((d.field "summary").field "changes_by_type").field p.text).field k.text).number
      = (d.field "changes").items.countP (isListedAs p k)
  entries_total : total (countsIn ((d.field "summary").field "changes_by_type"))
    = (d.field "total_changes").number
  listed : (d.field "total_changes").number = (d.field "changes").items.length
  added : total ((d.field "changes").items.map fun c => (c.field "added").number)
    = ((d.field "summary").field "total_added").number
  removed : total ((d.field "changes").items.map fun c => (c.field "removed").number)
    = ((d.field "summary").field "total_removed").number
  passed : (d.field "passed").flag? = some (d.field "violations").items.isEmpty
  exceeded : ∀ v ∈ (d.field "violations").items,
    (v.field "maximum").number < (v.field "actual").number

variable (result : Result) (w : Weights) (l : Limits)

/-- The fields of a document with its changes. -/
theorem items_changes :
    ((document (judged result w l true)).field "changes").items
      = result.changes.map changeDocument := rfl

private theorem items_violations :
    ((document (judged result w l true)).field "violations").items
      = (evaluate l (summarize w result.changes)).violations.map violationDocument := rfl

private theorem rows_document :
    ((document (judged result w l true)).field "summary").field "changes_by_type"
      = rows (summarize w result.changes) := rfl

private theorem accounts_document : (document (judged result w l true)).Accounts result where
  files := by
    show (result.analyzedFiles.length : Int)
      + ((result.skippedFiles.map skippedDocument).length : Nat) = _
    rw [List.length_map, ← length_analyzedFiles_add]
    omega
  entries p k := by
    rw [rows_document, entry_rows, count_summarize, items_changes, List.countP_map]
    exact congrArg (fun f => ((List.countP f result.changes : Nat) : Int))
      (funext fun c => (isListedAs_changeDocument p k c).symm)
  entries_total := by
    rw [rows_document, total_rows]
    simp only [count_summarize]
    exact sum_countP_isOf result.changes
  listed := by
    rw [items_changes, List.length_map]
    rfl
  added := by
    rw [items_changes, List.map_map]
    rfl
  removed := by
    rw [items_changes, List.map_map]
    rfl
  passed := by
    rw [items_violations, List.isEmpty_map]
    rfl
  exceeded := by
    rw [items_violations]
    intro v hv
    obtain ⟨violation, hviolation, rfl⟩ := List.mem_map.1 hv
    obtain ⟨limit, -, hlimit⟩ := List.mem_filterMap.1 hviolation
    obtain ⟨maximum, -, hexceeds, rfl⟩ := violation?_eq_some_iff.1 hlimit
    exact hexceeds

/-- **A report accounts for its run**, whatever the result, the weights and the limits are: what its
    document says of files, changes, lines and limits agrees with what it lists, results with other
    changes have other documents, and without details only the list of changes is missing. -/
theorem document_accounts :
    (document (judged result w l true)).Accounts result ∧
      (∀ result' w' l', result'.changes ≠ result.changes →
        document (judged result' w' l' true) ≠ document (judged result w l true)) ∧
      (document (judged result w l true)).fields.map (·.1)
        = (document (judged result w l false)).fields.map (·.1) ++ ["changes"] ∧
      document (judged result w l false)
        = (document (judged result w l true)).without "changes" := by
  refine ⟨accounts_document result w l, ?_, rfl, rfl⟩
  intro result' w' l' hne hsame
  have hitems : result'.changes.map changeDocument = result.changes.map changeDocument := by
    rw [← items_changes result' w' l', ← items_changes result w l, hsame]
  exact hne (List.map_injective_iff.2 changeDocument_injective hitems)

/-- A result with some changes, a file that was analysed and one that was passed over. -/
def twoFiles (changes : List Change) : Result :=
  { changes
    files := [{ path := "src/lib.rs", changes := 2 }, { path := "a.png", skipped := some .binary }]
    errors := []
    durationMs := 0 }

/-- Two changes. -/
def twoEdits : List Change := [edit .test .modified 3 2, edit .production .added 4 0]

/-- The order of changes is in the document, though no count tells it. -/
theorem document_accounts_of_swapped :
    twoEdits.reverse ≠ twoEdits ∧
      document (judged (twoFiles twoEdits.reverse) [] {} true)
        ≠ document (judged (twoFiles twoEdits) [] {} true) := by
  have hne : twoEdits.reverse ≠ twoEdits := by decide
  exact ⟨hne, (document_accounts (twoFiles twoEdits) [] {}).2.1 _ _ _ hne⟩

end DiffGauge.Report
