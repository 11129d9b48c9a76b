import DiffGauge.Proofs.Sorting
import DiffGauge.Proofs.Syntax.Visits

/-!
# The units of a tree with their visits

The units of a tree come from its visits, one from each, and are sorted by their first lines. Sorted
side by side with them, the visits say where each unit stands.

* `isCatalogue_mergeSort` says that the sorted pairs belong to the units of the tree;
* `isListing_iff` says which of these pairs are nested as their items are.
-/

namespace DiffGauge.Syntax

/-- The units of a tree, each with the visit that it comes from. -/
structure Setting.IsCatalogue (st : Setting) (root : SyntaxTree) (units : List CodeUnit)
    (catalogue : List (Visit × CodeUnit)) : Prop where
  units_eq : catalogue.map Prod.snd = units
  visited : (catalogue.map Prod.fst).Perm (st.visits root)
  unit : ∀ p ∈ catalogue, st.unitAt p.1 = .ok p.2

/-- The unit of a visit begins no later than that of the other one. -/
def comesNoLater (p q : Visit × CodeUnit) : Bool := startsNoLater p.2 q.2

/-- The order of the units is transitive. -/
theorem comesNoLater_trans (p q r : Visit × CodeUnit) (hpq : comesNoLater p q = true)
    (hqr : comesNoLater q r = true) : comesNoLater p r = true :=
  key_trans (fun p : Visit × CodeUnit => p.2.span.first) p q r hpq hqr

/-- The order of the units is total. -/
theorem comesNoLater_total (p q : Visit × CodeUnit) :
    (comesNoLater p q || comesNoLater q p) = true :=
  key_total (fun p : Visit × CodeUnit => p.2.span.first) p q

variable {st : Setting} {root : SyntaxTree}

/-- The visits with their units, sorted as the units are. -/
theorem Setting.isCatalogue_mergeSort {us : List CodeUnit}
    (hus : (st.visits root).mapM st.unitAt = .ok us) :
    st.IsCatalogue root (us.mergeSort startsNoLater)
      (((st.visits root).zip us).mergeSort comesNoLater) := by
  obtain ⟨hlength, hunit⟩ := List.forall₂_iff_zip.1 (mapM_eq_ok_iff.1 hus)
  have hperm := List.mergeSort_perm ((st.visits root).zip us) comesNoLater
  constructor
  · calc _ = (((st.visits root).zip us).map Prod.snd).mergeSort startsNoLater :=
          List.map_mergeSort fun p _ q _ => rfl
      _ = us.mergeSort startsNoLater := by rw [List.map_snd_zip (Nat.le_of_eq hlength.symm)]
  · refine (hperm.map Prod.fst).trans ?_
    rw [List.map_fst_zip (Nat.le_of_eq hlength)]
  · exact fun p hp => hunit (hperm.mem_iff.1 hp)

/-- The units of a tree without a fault, sorted. -/
theorem Setting.units_eq_ok {us : List CodeUnit} (hfault : root.hasFault = false)
    (hus : (st.visits root).mapM st.unitAt = .ok us) :
    st.units root = .ok (us.mergeSort startsNoLater) := by
  have hnone : root.fault? st.source = none := by
    rw [SyntaxTree.fault?, hfault]
    rfl
  rw [st.units_eq_visits hnone, hus]

/-- The units of a tree come from its visits. -/
theorem Setting.exists_catalogue {units : List CodeUnit} (h : st.units root = .ok units) :
    ∃ catalogue, st.IsCatalogue root units catalogue := by
  cases hfault : root.fault? st.source with
  | some fault =>
      rw [Setting.units, hfault] at h
      cases h
  | none =>
      rw [st.units_eq_visits hfault] at h
      cases hus : (st.visits root).mapM st.unitAt with
      | error span =>
          rw [hus] at h
          cases h
      | ok us =>
          rw [hus] at h
          cases h
          exact ⟨_, Setting.isCatalogue_mergeSort hus⟩

/-- The visits of a catalogue are to items of the tree. -/
theorem Setting.IsCatalogue.mem_visits {units : List CodeUnit} {catalogue : List (Visit × CodeUnit)}
    (h : st.IsCatalogue root units catalogue) {p : Visit × CodeUnit} (hp : p ∈ catalogue) :
    p.1 ∈ st.visits root :=
  h.visited.mem_iff.1 (List.mem_map_of_mem hp)

/-! ## Units in the order of their items -/

/-- The units of a tree, each with the visit that it comes from: sorted by their first lines, and
    an outer one before those inside it and with their lines. -/
structure Setting.IsListing (st : Setting) (root : SyntaxTree)
    (listing : List (Visit × CodeUnit)) : Prop where
  visited : (listing.map Prod.fst).Perm (st.visits root)
  stands : ∀ p ∈ listing, p.1.StandsIn root
  unit : ∀ p ∈ listing, st.unitAt p.1 = .ok p.2
  sorted : listing.Pairwise fun p q => p.2.span.first ≤ q.2.span.first
  nested : ∀ (i j : Nat) (hi : i < listing.length) (hj : j < listing.length),
    listing[j].1.IsInside listing[i].1 →
      i < j ∧ listing[i].2.span.containsSpan listing[j].2.span = true

/-- The one unit may come before the other one: it is not inside it, and has its lines if the
    other one is inside it. -/
def Encloses (p q : Visit × CodeUnit) : Prop :=
  ¬p.1.IsInside q.1 ∧ (q.1.IsInside p.1 → p.2.span.containsSpan q.2.span = true)

/-- A listing is a catalogue that is sorted, with every outer unit before those inside it. -/
theorem Setting.isListing_iff {listing : List (Visit × CodeUnit)} :
    st.IsListing root listing ↔
      st.IsCatalogue root (listing.map Prod.snd) listing ∧
        (listing.Pairwise fun p q => comesNoLater p q = true) ∧ listing.Pairwise Encloses := by
  constructor
  · intro h
    refine ⟨⟨rfl, h.visited, h.unit⟩, h.sorted.imp decide_eq_true, ?_⟩
    refine List.pairwise_iff_getElem.2 fun i j hi hj hlt => ⟨fun hinside => ?_, fun hinside => ?_⟩
    · exact absurd (h.nested j i hj hi hinside).1 (Nat.lt_asymm hlt)
    · exact (h.nested i j hi hj hinside).2
  · rintro ⟨hcatalogue, hsorted, hencloses⟩
    refine ⟨hcatalogue.visited, fun p hp => ?_, hcatalogue.unit,
      hsorted.imp of_decide_eq_true, fun i j hi hj hinside => ?_⟩
    · exact st.visits_standIn p.1 (hcatalogue.mem_visits hp)
    · rw [List.pairwise_iff_getElem] at hencloses
      rcases Nat.lt_trichotomy i j with hlt | rfl | hgt
      · exact ⟨hlt, (hencloses i j hi hj hlt).2 hinside⟩
      · exact absurd rfl hinside.2
      · exact absurd hinside (hencloses j i hj hi hgt).1

end DiffGauge.Syntax
