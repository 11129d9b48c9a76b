import DiffGauge.Proofs.Diff.Opening
import DiffGauge.Proofs.Diff.Placement
import Mathlib

/-!
# Renames and nothing else

The section of a file that is renamed and not changed names the file four times: twice in the line
that opens it, and once in each of the two headers of the rename. The headers have their names to
themselves, and they are what counts; but a line that cannot be taken apart is refused before they
are read. So a rename is read back exactly if its opening line can be taken apart
(`read_renameText`).
-/

namespace DiffGauge.Diff

open Text PathQuoting

/-- The extended headers of a rename without a change. -/
def renameHeaders (old new : List Char) : List Line :=
  ["similarity index 100%".toList, "rename from ".toList ++ shown old,
    "rename to ".toList ++ shown new]

/-- The section of a rename without a change. -/
def renameText (old new : List Char) : String := openedText old new (renameHeaders old new)

/-- A file that is renamed and not changed. -/
def renamedFile (old new : List Char) : FileDiff :=
  { oldPath := some (String.ofList old)
    newPath := some (String.ofList new)
    status := .renamed
    isRename := true }

private theorem renameHeaders_isClean {old new : List Char} (hold : old ≠ []) (hnew : new ≠ []) :
    ∀ l ∈ renameHeaders old new, IsClean l := by
  have hname {lead cs : List Char} (hlead : '\n' ∉ lead) (hcs : cs ≠ []) :
      IsClean (lead ++ shown cs) :=
    (isClean_of_printable printable_of_mem_shown).append hlead (shown_ne_nil hcs)
  exact List.forall_mem_cons.2 ⟨⟨by decide, by decide⟩,
    List.forall_mem_cons.2 ⟨hname (by decide) hold,
      List.forall_mem_singleton.2 (hname (by decide) hnew)⟩⟩

/-- What the headers of a rename say. -/
theorem read?_renameHeaders {old new : List Char} (hold : old ≠ []) (hnew : new ≠ []) :
    (renameHeaders old new).map ExtendedHeader.read?
      = List.map some [.informative, .renamedFrom (String.ofList old),
          .renamedTo (String.ofList new)] := by
  have hpercent : ExtendedHeader.read? "similarity index 100%".toList = some .informative := by
    decide +kernel
  have hfrom {c : Char} {cs : List Char} (h : shown old = c :: cs) :
      ExtendedHeader.read? ("rename from ".toList ++ shown old)
        = some (.renamedFrom (String.ofList (unquote (shown old)))) := by
    rw [h]
    rfl
  have hto {c : Char} {cs : List Char} (h : shown new = c :: cs) :
      ExtendedHeader.read? ("rename to ".toList ++ shown new)
        = some (.renamedTo (String.ofList (unquote (shown new)))) := by
    rw [h]
    rfl
  obtain ⟨c, cs, hc⟩ := List.exists_cons_of_ne_nil (shown_ne_nil hold)
  obtain ⟨d, ds, hd⟩ := List.exists_cons_of_ne_nil (shown_ne_nil hnew)
  rw [renameHeaders, List.map_cons, List.map_cons, List.map_singleton, hpercent, hfrom hc, hto hd,
    unquote_shown, unquote_shown]
  rfl

/-- Once its opening line names two paths, whichever these are, a rename is read. -/
theorem readSection_renameHeaders {old new : List Char} {left right : String} (hold : old ≠ [])
    (hnew : new ≠ []) (n : Nat)
    (hpaths : headerPaths? (opening old new) = some (left, right)) :
    readSection (opening old new) n (renameHeaders old new)
      = .ok ⟨renamedFile old new, ⟨n + 4, []⟩⟩ := by
  have hrest : ∀ line ∈ ([] : List Line).head?, ExtendedHeader.read? line = none := nofun
  have hpreface := readPreface_append { oldPath := left, newPath := right } (n + 1)
    (read?_renameHeaders hold hnew) hrest
  rw [List.append_nil] at hpreface
  rw [readSection_of_preface hpaths hpreface]
  rfl

/-- A rename is read back if its opening line can be taken apart, and refused otherwise. -/
theorem read_renameText {old new : List Char} (hold : old ≠ []) (hnew : new ≠ []) :
    read (renameText old new)
      = if IsDivisible old new then .ok [renamedFile old new]
        else .error (.at (.headerWithoutPaths (opening old new)) 1) := by
  have hopens := opensSection_opening old new
  rw [renameText, read_openedText (renameHeaders_isClean hold hnew)]
  split
  · next hdivisible =>
      obtain ⟨⟨left, right⟩, hpaths⟩ := Option.isSome_iff_exists.1
        ((headerPaths?_opening_isSome_iff hold hnew).2 hdivisible)
      rw [readSections_opened hopens (readSection_renameHeaders hold hnew 1 hpaths), readSections]
      rfl
  · next hdivisible =>
      have hnone : headerPaths? (opening old new) = none := by
        rw [← Option.not_isSome_iff_eq_none, headerPaths?_opening_isSome_iff hold hnew]
        exact hdivisible
      have hsection : readSection (opening old new) 1 (renameHeaders old new)
          = .error (.at (.headerWithoutPaths (opening old new)) 1) := by
        rw [readSection, hnone]
      exact readSections_opened_fault hopens hsection

/-- A name that is printed in quotes. -/
def accentedName : List Char := "é.rs".toList

/-- A name with a blank, which is printed as it is. -/
def spacedName : List Char := "a b.rs".toList

/-- A rename from the accented name is refused if the other has a blank, and read otherwise. -/
theorem read_renameText_of_accentedName :
    accentedName ≠ [] ∧ spacedName ≠ [] ∧ "ab.rs".toList ≠ [] ∧
      read (renameText accentedName spacedName)
        = .error (.at (.headerWithoutPaths (opening accentedName spacedName)) 1) ∧
      read (renameText accentedName "ab.rs".toList)
        = .ok [renamedFile accentedName "ab.rs".toList] := by
  have haccented : accentedName ≠ [] := by decide
  have hspaced : spacedName ≠ [] := by decide
  have hplain : "ab.rs".toList ≠ [] := by decide
  have hrefused : ¬IsDivisible accentedName spacedName := by decide +kernel
  have hread : IsDivisible accentedName "ab.rs".toList := by decide +kernel
  refine ⟨haccented, hspaced, hplain, ?_, ?_⟩
  · rw [read_renameText haccented hspaced, if_neg hrefused]
  · rw [read_renameText haccented hplain, if_pos hread]

/-- Not every rename is read back. -/
theorem exists_rename_refused :
    ¬∀ old new : List Char, old ≠ [] → new ≠ [] → old ≠ new →
      read (renameText old new) = .ok [renamedFile old new] := by
  intro h
  have hread := h accentedName spacedName (by decide) (by decide) (by decide)
  have hrefused : read (renameText accentedName spacedName)
      = .error (.at (.headerWithoutPaths (opening accentedName spacedName)) 1) := by
    decide +kernel
  rw [hrefused] at hread
  cases hread

end DiffGauge.Diff
