import DiffGauge.Proofs.Diff.Opening
import DiffGauge.Proofs.Diff.Placement
import Mathlib

/-!
# Sections without path lines

A change of the mode, an empty file that comes or goes and a binary file have no path lines, so
that the line which opens the section is all that names the file. It names it twice, and if the name
goes without quotes it is divided at the last divider. That is the one between the two names, unless
a divider stands inside the name itself.

* `LastDivision.left_eq_iff` says when the two sides of the last divider are the names;
* `readSection_headerOnly` reads a section that ends with its extended headers;
* `read_headerOnlyText` says what the text of such a section is read as, and when its file is the
  one that is named.
-/

namespace DiffGauge.Diff

open Text PathQuoting

/-! ## The last divider of a name written twice -/

/-- The two sides of a text at the last divider behind which something stands. -/
structure LastDivision (cs left right : List Char) : Prop where
  eq_append : cs = left ++ (divider ++ right)
  right_ne_nil : right ≠ []
  length_le : ∀ l r, cs = l ++ (divider ++ r) → r ≠ [] → l.length ≤ left.length

private theorem lastDivision_of_lastSplit? {cs left right : List Char}
    (h : lastSplit? divider cs = some (left, right)) : LastDivision cs left right where
  eq_append := (lastSplit?_eq_some h).1
  right_ne_nil := (lastSplit?_eq_some h).2.2
  length_le _ _ hcs hr := length_le_of_lastSplit? h hcs hr

/-- A divider does not overlap another one. -/
theorem divider_append {x p r : List Char} (hx : x ≠ []) (h : divider ++ p = x ++ (divider ++ r)) :
    ∃ y, p = y ++ (divider ++ r) := by
  rcases List.append_eq_append_iff.1 h with ⟨y, -, hp⟩ | ⟨d, hd, hr⟩
  · exact ⟨y, hp⟩
  · cases d with
    | nil => exact ⟨[], hr.symm⟩
    | cons c d =>
        -- a divider that begins inside the first begins with a letter or a slash
        obtain ⟨a, x, rfl⟩ := List.exists_cons_of_ne_nil hx
        have hblank : ' ' = c := (List.cons.inj hr).1
        have hmem : ' ' ∈ ['b', '/'] := by
          rw [(List.cons.inj hd).2, ← hblank]
          exact List.mem_append_right x List.mem_cons_self
        exact absurd hmem (by decide)

/-- A divider inside a name that is written twice stands further on than the one between the two. -/
theorem LastDivision.not_infix {p right : List Char}
    (h : LastDivision (p ++ (divider ++ p)) p right) : ¬divider <:+: p.dropLast := by
  rintro ⟨u, v, hinner⟩
  have hne : p ≠ [] := by
    rintro rfl
    have hnil := List.append_eq_nil_iff.1 (List.append_eq_nil_iff.1 hinner).1
    exact absurd hnil.2 (by decide)
  have hlast : p = u ++ (divider ++ (v ++ [p.getLast hne])) := by
    rw [← List.append_assoc divider, ← List.append_assoc u, ← List.append_assoc u, hinner,
      List.dropLast_append_getLast]
  have hlength : (p ++ (divider ++ u)).length ≤ p.length := by
    refine h.length_le _ (v ++ [p.getLast hne]) ?_
      (List.append_ne_nil_of_right_ne_nil v (List.cons_ne_nil _ _))
    rw [List.append_assoc, List.append_assoc, ← hlast]
  rw [List.length_append, List.length_append] at hlength
  have hthree : divider.length = 3 := rfl
  omega

/-- A name that is written twice and has no divider inside stands in front of the last one. -/
theorem LastDivision.left_eq {p left right : List Char}
    (h : LastDivision (p ++ (divider ++ p)) left right) (hnone : ¬divider <:+: p.dropLast) :
    left = p := by
  have hp : p ≠ [] := by
    rintro rfl
    have hlength := congrArg List.length h.eq_append
    have hright := List.length_pos_of_ne_nil h.right_ne_nil
    simp only [List.length_append, List.length_nil] at hlength
    omega
  have hlength : p.length ≤ left.length := h.length_le p p rfl hp
  rcases List.append_eq_append_iff.1 h.eq_append with ⟨x, hleft, hrest⟩ | ⟨x, hx, -⟩
  · by_cases hx : x = []
    · rw [hleft, hx, List.append_nil]
    · obtain ⟨y, hy⟩ := divider_append hx hrest
      refine absurd ⟨y, right.dropLast, ?_⟩ hnone
      rw [hy, List.dropLast_append_of_ne_nil
        (List.append_ne_nil_of_right_ne_nil divider h.right_ne_nil),
        List.dropLast_append_of_ne_nil h.right_ne_nil, List.append_assoc]
  · rw [hx, List.length_append] at hlength
    have hnil : x = [] := List.length_eq_zero_iff.1 (by omega)
    rw [hx, hnil, List.append_nil]

/-- A name that is written twice stands in front of the last divider exactly if none stands
    inside it. -/
theorem LastDivision.left_eq_iff {p left right : List Char}
    (h : LastDivision (p ++ (divider ++ p)) left right) :
    left = p ↔ ¬divider <:+: p.dropLast := by
  constructor
  · rintro rfl
    exact h.not_infix
  · exact h.left_eq

private theorem LastDivision.right_eq {p right : List Char}
    (h : LastDivision (p ++ (divider ++ p)) p right) : right = p :=
  (List.append_cancel_left (List.append_cancel_left h.eq_append)).symm

/-! ## What such a section looks like -/

/-- An index line. -/
structure IndexText where
  names : List Char
  namesObjects : Diff.namesObjects names = true
  isClean : IsClean names

/-- The line with the names. -/
def IndexText.line (i : IndexText) : Line := "index ".toList ++ i.names

/-- What is said of a file besides its content. -/
inductive FileChange where
  | mode (old new : ModeText)
  | created (mode : ModeText)
  | deleted (mode : ModeText)
  | content

/-- The lines that say it. -/
def FileChange.lines : FileChange → List Line
  | .mode old new => ["old mode ".toList ++ old.digits, "new mode ".toList ++ new.digits]
  | .created m => [newModeLine m]
  | .deleted m => [deletedModeLine m]
  | .content => []

/-- What the lines are read as. -/
def FileChange.sayings : FileChange → List ExtendedHeader
  | .mode _ _ => [.modeChanged, .modeChanged]
  | .created _ => [.newFile]
  | .deleted _ => [.deletedFile]
  | .content => []

/-- The line that says that a file is binary, and the lines of its content, if they are given. -/
structure BinaryText where
  marker : Line
  announces : announcesBinary marker = true
  marker_isClean : IsClean marker
  payload : List Line
  payload_isClean : ∀ l ∈ payload, IsClean l
  payload_begins : ∀ l ∈ payload.head?, ExtendedHeader.read? l = none
  payload_opens : ∀ l ∈ payload, opensSection l = false

/-- The section of a file that is named by its opening line alone, without quotes. -/
structure HeaderOnlyText where
  path : List Char
  path_ne_nil : path ≠ []
  path_plain : needsQuotes path = false
  change : FileChange
  index : Option IndexText
  binary : Option BinaryText
  binary_of_content : change = .content → binary.isSome = true

namespace HeaderOnlyText

variable (s : HeaderOnlyText)

/-- The extended headers of the section. -/
def headers : List Line :=
  s.change.lines ++ (s.index.toList.map IndexText.line ++ s.binary.toList.map BinaryText.marker)

/-- What the headers say. -/
def sayings : List ExtendedHeader :=
  s.change.sayings
    ++ (s.index.toList.map (fun _ => .informative) ++ s.binary.toList.map fun _ => .binary)

/-- What follows the headers. -/
def payload : List Line := s.binary.toList.flatMap BinaryText.payload

/-- The text of the section. -/
def text : String := openedText s.path s.path (s.headers ++ s.payload)

/-- The file of the section, with these names. -/
def file (oldName newName : String) : FileDiff :=
  match s.change with
  | .mode _ _ =>
    { oldPath := some oldName, newPath := some newName, status := .modeChanged
      isBinary := s.binary.isSome }
  | .created _ =>
    { oldPath := none, newPath := some newName, status := .added, isBinary := s.binary.isSome }
  | .deleted _ =>
    { oldPath := some oldName, newPath := none, status := .deleted, isBinary := s.binary.isSome }
  | .content =>
    { oldPath := some oldName, newPath := some newName, status := .modified
      isBinary := s.binary.isSome }

end HeaderOnlyText

/-! ## Its lines -/

private theorem leadThen_append (lead : String) (p : List Char → Bool) (rest : List Char) :
    leadThen lead p (lead.toList ++ rest) = p rest := by
  rw [leadThen, dropLead?, after?_append]

private theorem IndexText.names_ne_nil (i : IndexText) : i.names ≠ [] := by
  intro hnil
  have hnames := i.namesObjects
  rw [hnil] at hnames
  cases hnames

private theorem IndexText.read?_line (i : IndexText) :
    ExtendedHeader.read? i.line = some .informative := by
  have hindex : leadThen "index " Diff.namesObjects i.line = true := by
    rw [line, leadThen_append]
    exact i.namesObjects
  rw [ExtendedHeader.read?, hindex, Bool.true_or, Bool.true_or, if_pos rfl]

private theorem FileChange.read?_lines (c : FileChange) :
    c.lines.map ExtendedHeader.read? = c.sayings.map some := by
  have hmode {lead : String} {m : ModeText} (hlead : lead = "old mode " ∨ lead = "new mode ") :
      ExtendedHeader.read? (lead.toList ++ m.digits) = some .modeChanged := by
    have hnumber : leadThen lead isNumber (lead.toList ++ m.digits) = true := by
      rw [leadThen_append]
      exact m.isNumber
    rcases hlead with rfl | rfl
    · show (if (leadThen "old mode " isNumber _ || _) = true then some ExtendedHeader.modeChanged
        else _) = _
      rw [hnumber, Bool.true_or, if_pos rfl]
    · show (if (false || leadThen "new mode " isNumber _) = true then
        some ExtendedHeader.modeChanged else _) = _
      rw [hnumber, Bool.or_true, if_pos rfl]
  cases c with
  | mode old new =>
      show [_, _] = [_, _]
      rw [hmode (.inl rfl), hmode (.inr rfl)]
  | created mode => exact congrArg ([·]) (read?_newModeLine mode)
  | deleted mode => exact congrArg ([·]) (read?_deletedModeLine mode)
  | content => rfl

private theorem BinaryText.read?_marker (b : BinaryText) :
    ExtendedHeader.read? b.marker = some .binary := by
  have hannounces := b.announces
  rw [announcesBinary, Bool.or_eq_true, beq_iff_eq] at hannounces
  rcases hannounces with hfiles | hpatch
  · rw [leadThen] at hfiles
    split at hfiles
    · next rest hrest =>
        have hmarker : b.marker = "Binary files ".toList ++ rest := after?_eq_some_iff.1 hrest
        have hsays := b.announces
        rw [hmarker] at hsays ⊢
        show (if announcesBinary _ = true then some ExtendedHeader.binary else none) = _
        rw [if_pos hsays]
    · cases hfiles
  · rw [hpatch]
    decide +kernel

namespace HeaderOnlyText

variable (s : HeaderOnlyText)

/-- Every header of the section is read. -/
theorem read?_headers : s.headers.map ExtendedHeader.read? = s.sayings.map some := by
  rw [headers, sayings]
  simp only [List.map_append]
  congr 1
  · exact s.change.read?_lines
  congr 1
  · cases s.index with
    | none => rfl
    | some i => exact congrArg ([·]) i.read?_line
  · cases s.binary with
    | none => rfl
    | some b => exact congrArg ([·]) b.read?_marker

/-- The lines of a section are clean. -/
theorem lines_isClean : ∀ l ∈ s.headers ++ s.payload, IsClean l := by
  have hmode (m : ModeText) {lead : List Char} (hlead : '\n' ∉ lead) :
      IsClean (lead ++ m.digits) := m.isClean.2.append hlead m.isClean.1
  have hchange : ∀ l ∈ s.change.lines, IsClean l := by
    cases s.change with
    | mode old new =>
        exact List.forall_mem_cons.2 ⟨hmode old (by decide),
          List.forall_mem_singleton.2 (hmode new (by decide))⟩
    | created mode => exact List.forall_mem_singleton.2 (hmode mode (by decide))
    | deleted mode => exact List.forall_mem_singleton.2 (hmode mode (by decide))
    | content => exact List.forall_mem_nil _
  have hindex : ∀ l ∈ s.index.toList.map IndexText.line, IsClean l := by
    cases s.index with
    | none => exact List.forall_mem_nil _
    | some i => exact List.forall_mem_singleton.2 (i.isClean.append (by decide) i.names_ne_nil)
  have hbinary : (∀ l ∈ s.binary.toList.map BinaryText.marker, IsClean l) ∧
      ∀ l ∈ s.payload, IsClean l := by
    rw [payload]
    cases s.binary with
    | none => exact ⟨List.forall_mem_nil _, List.forall_mem_nil _⟩
    | some b =>
        refine ⟨List.forall_mem_singleton.2 b.marker_isClean, ?_⟩
        rw [Option.toList_some, List.flatMap_singleton]
        exact b.payload_isClean
  rw [headers]
  simp only [List.forall_mem_append]
  exact ⟨⟨hchange, hindex, hbinary.1⟩, hbinary.2⟩

/-! ## Its file -/

/-- What the headers say of the file. -/
theorem foldl_sayings (oldName newName : String) :
    let p := s.sayings.foldl Preface.adding { oldPath := oldName, newPath := newName }
    p.fileDiff = s.file oldName newName ∧ p.isBinary = s.binary.isSome ∧
      (p.isBinary = false → p.isComplete = true) := by
  obtain ⟨path, hne, hplain, change, index, binary, hcontent⟩ := s
  cases change with
  | content =>
      cases binary with
      | none => cases hcontent rfl
      | some b => cases index <;> exact ⟨rfl, rfl, nofun⟩
  | _ => cases index <;> cases binary <;> exact ⟨rfl, rfl, fun _ => rfl⟩

end HeaderOnlyText

/-- Lines of which none opens a section are passed over. -/
theorem skipToSection_of_not_opens (n : Nat) {lines : List Line}
    (h : ∀ l ∈ lines, opensSection l = false) :
    skipToSection n lines = ⟨n + lines.length, []⟩ := by
  induction lines generalizing n with
  | nil => rfl
  | cons line lines ih =>
      obtain ⟨hline, hmore⟩ := List.forall_mem_cons.1 h
      rw [skipToSection, hline, ih (n + 1) hmore, List.length_cons, Nat.add_assoc, Nat.add_comm 1]
      rfl

/-- A section that is named by its opening line alone is read with the names of that line. -/
theorem readSection_headerOnly (s : HeaderOnlyText) (n : Nat) {oldName newName : String}
    (hpaths : headerPaths? (opening s.path s.path) = some (oldName, newName)) :
    ∃ m, readSection (opening s.path s.path) n (s.headers ++ s.payload)
      = .ok ⟨s.file oldName newName, ⟨m, []⟩⟩ := by
  have hbegins : ∀ l ∈ s.payload.head?, ExtendedHeader.read? l = none := by
    rw [HeaderOnlyText.payload]
    cases s.binary with
    | none => exact nofun
    | some b =>
        rw [Option.toList_some, List.flatMap_singleton]
        exact b.payload_begins
  have hpreface := readPreface_append { oldPath := oldName, newPath := newName } (n + 1)
    s.read?_headers hbegins
  obtain ⟨hfile, hbinary, hcomplete⟩ := s.foldl_sayings oldName newName
  rw [readSection_of_preface hpaths hpreface, hfile]
  cases hb : s.binary with
  | none =>
      have hplain := hbinary.trans (congrArg Option.isSome hb)
      have hpayload : s.payload = [] := by
        rw [HeaderOnlyText.payload, hb]
        rfl
      refine ⟨n + 1 + s.headers.length, ?_⟩
      simp only [hplain, Option.isSome_none, Bool.false_eq_true, if_false, hpayload, atOldPath,
        hcomplete hplain, if_true]
  | some b =>
      have hsome := hbinary.trans (congrArg Option.isSome hb)
      have hopens : ∀ l ∈ s.payload, opensSection l = false := by
        rw [HeaderOnlyText.payload, hb, Option.toList_some, List.flatMap_singleton]
        exact b.payload_opens
      refine ⟨n + 1 + s.headers.length + s.payload.length, ?_⟩
      simp only [hsome, Option.isSome_some, if_true, skipToSection_of_not_opens _ hopens]

/-! ## Which file it is -/

/-- The only path of the file is this one. -/
def FileDiff.NamesOnly (f : FileDiff) (path : String) : Prop :=
  (∀ q, f.oldPath = some q ∨ f.newPath = some q → q = path) ∧ f.path = path

/-- The new path of a file is its path, unless it is empty. -/
theorem FileDiff.path_of_newPath {f : FileDiff} {cs : List Char}
    (hf : f.newPath = some (String.ofList cs)) (hne : cs ≠ []) : f.path = String.ofList cs := by
  have hnonempty : (String.ofList cs).isEmpty = false := by
    rw [← Bool.not_eq_true, String.isEmpty_iff, ← String.toList_inj, String.toList_ofList]
    exact hne
  rw [path, hf, present, hnonempty]
  rfl

private theorem HeaderOnlyText.namesOnly_iff (s : HeaderOnlyText) {left right : List Char}
    (h : LastDivision (s.path ++ (divider ++ s.path)) left right) :
    (s.file (String.ofList left) (String.ofList right)).NamesOnly (String.ofList s.path) ↔
      left = s.path := by
  have hboth : right = s.path ↔ left = s.path := by
    constructor
    · intro hright
      have heq := h.eq_append
      rw [hright] at heq
      exact (List.append_cancel_right heq).symm
    · intro hleft
      rw [hleft] at h
      exact h.right_eq
  have hname (cs : List Char) : String.ofList cs = String.ofList s.path ↔ cs = s.path :=
    ⟨fun e => String.ofList_injective e, congrArg String.ofList⟩
  rw [FileDiff.NamesOnly, HeaderOnlyText.file]
  cases s.change with
  | deleted m =>
      constructor
      · intro hnames
        exact (hname left).1 (hnames.1 _ (.inl rfl))
      · intro hleft
        refine ⟨?_, (hname left).2 hleft⟩
        rintro q (hq | hq)
        · exact Option.some.inj hq ▸ (hname left).2 hleft
        · cases hq
  | created m =>
      constructor
      · intro hnames
        exact hboth.1 ((hname right).1 (hnames.1 _ (.inr rfl)))
      · intro hleft
        have hright := (hname right).2 (hboth.2 hleft)
        refine ⟨?_, (FileDiff.path_of_newPath rfl h.right_ne_nil).trans hright⟩
        rintro q (hq | hq)
        · cases hq
        · exact Option.some.inj hq ▸ hright
  | _ =>
      constructor
      · intro hnames
        exact (hname left).1 (hnames.1 _ (.inl rfl))
      · intro hleft
        have hright := (hname right).2 (hboth.2 hleft)
        refine ⟨?_, (FileDiff.path_of_newPath rfl h.right_ne_nil).trans hright⟩
        rintro q (hq | hq)
        · exact Option.some.inj hq ▸ (hname left).2 hleft
        · exact Option.some.inj hq ▸ hright

/-- The text of a section that is named by its opening line alone is read as one file, with the
    names on both sides of the last divider. It is the file that is named exactly if no divider
    stands inside its name. -/
theorem read_headerOnlyText (s : HeaderOnlyText) :
    ∃ left right, LastDivision (s.path ++ (divider ++ s.path)) left right ∧
      read s.text = .ok [s.file (String.ofList left) (String.ofList right)] ∧
      ((s.file (String.ofList left) (String.ofList right)).NamesOnly (String.ofList s.path) ↔
        ¬divider <:+: s.path.dropLast) := by
  obtain ⟨⟨left, right⟩, hsplit⟩ := Option.isSome_iff_exists.1
    (lastSplit?_isSome divider s.path_ne_nil s.path_ne_nil)
  have hdivision := lastDivision_of_lastSplit? hsplit
  have hpaths := headerPaths?_plain s.path_plain s.path_plain hsplit
  obtain ⟨m, hsection⟩ := readSection_headerOnly s 1 hpaths
  refine ⟨left, right, hdivision, ?_, (s.namesOnly_iff hdivision).trans hdivision.left_eq_iff⟩
  rw [HeaderOnlyText.text, read_openedText s.lines_isClean,
    readSections_opened (opensSection_opening _ _) hsection, readSections]
  rfl

/-- A change of the mode of a file whose name has a divider inside. -/
def dividedMode : HeaderOnlyText where
  path := "x b/y".toList
  path_ne_nil := by decide
  path_plain := by decide +kernel
  change := .mode ⟨"100644".toList, by decide⟩ ⟨"100755".toList, by decide⟩
  index := none
  binary := none
  binary_of_content := nofun

/-- Not every file that is named by the opening line of its section is the one that is read. -/
theorem exists_header_names_another :
    ¬∀ s : HeaderOnlyText, ∃ f, read s.text = .ok [f] ∧ f.NamesOnly (String.ofList s.path) := by
  intro h
  obtain ⟨f, hread, hnames, -⟩ := h dividedMode
  have hother : read dividedMode.text = .ok [{
      oldPath := some "x b/y b/x"
      newPath := some "y"
      status := .modeChanged }] := by decide +kernel
  obtain rfl : _ = f := List.singleton_inj.1 (Except.ok.inj (hother.symm.trans hread))
  exact absurd (hnames "y" (.inr rfl)) (by decide)

end DiffGauge.Diff
