import DiffGauge.Proofs.Diff.Lines
import DiffGauge.Proofs.Diff.RoundTrip
import DiffGauge.Proofs.Text.Utf8
import Mathlib

/-!
# Quoted paths are read back

Between quotes a byte stands in one of three ways (`Written`), and each of them is read as that
byte, whatever follows: a backslash takes a letter or exactly three digits with it, so a digit or
another backslash behind it stays for itself. The bytes of all characters together are the text.

* `unquote_quote` undoes the quotes;
* `quotedFront?_quote` finds the end of a quoted text in a line, also where the text has quotes of
  its own;
* `read_quotedRename` reads a whole diff;
* `readers_undo_quote` says it of every reader of a path: the two path lines, the extended headers
  of a rename, the line that opens a section, and the reader of diffs.
-/

namespace DiffGauge.Diff.PathQuoting

open Text

/-! ## One byte -/

/-- An octal digit. -/
def octalDigit (d : Nat) : Char := Char.ofNat (48 + d)

/-- The ways in which a byte stands between quotes. -/
inductive Written (b : UInt8) : List Char → Prop where
  | letter {c : Char} : (c, b) ∈ letters → Written b ['\\', c]
  | itself {c : Char} : c ≠ '"' → c ≠ '\\' → 32 ≤ c.toNat → c.toNat < 127 →
      Utf8.encode [c] = [b] → Written b [c]
  | octal (x y z : Nat) : x < 8 → y < 8 → z < 8 → b = UInt8.ofNat (x * 64 + y * 8 + z) →
      Written b ['\\', octalDigit x, octalDigit y, octalDigit z]

/-- A byte of printable ASCII that no letter stands for stands for itself. -/
theorem written_itself {b : UInt8} (hletter : ∀ p ∈ letters, p.2 ≠ b) (hlow : 32 ≤ b.toNat)
    (hhigh : b.toNat < 127) : Written b [Char.ofNat b.toNat] := by
  have hchar : (Char.ofNat b.toNat).toNat = b.toNat := by
    rw [Char.toNat_ofNat, if_pos (.inl (by omega))]
  -- a character with a letter of its own would have its byte in the table
  have hne {c : Char} {v : UInt8} (hmem : (c, v) ∈ letters) (hv : c.toNat = v.toNat) :
      Char.ofNat b.toNat ≠ c := fun e =>
    hletter _ hmem (UInt8.toNat_inj.1 (by rw [← hv, ← e, hchar]))
  refine .itself (hne (v := 34) (by decide) rfl) (hne (v := 92) (by decide) rfl) ?_ ?_ ?_
  · rwa [hchar]
  · rwa [hchar]
  · rw [Utf8.encode_ascii (by omega), hchar, UInt8.ofNat_toNat]

private theorem written_quotedByte (b : UInt8) : Written b (quotedByte b) := by
  rw [quotedByte]
  split
  · next c v hfind =>
      have hvalue := List.find?_some hfind
      obtain rfl : v = b := eq_of_beq hvalue
      exact .letter (List.mem_of_find?_eq_some hfind)
  · next hfind =>
      have hletter : ∀ p ∈ letters, p.2 ≠ b := by
        rintro ⟨c, v⟩ hmem rfl
        exact List.find?_eq_none.1 hfind _ hmem (beq_self_eq_true v)
      by_cases hrange : (32 ≤ b && b < 127) = true
      · rw [if_pos hrange]
        rw [Bool.and_eq_true, decide_eq_true_iff, decide_eq_true_iff, UInt8.le_iff_toNat_le,
          UInt8.lt_iff_toNat_lt] at hrange
        exact written_itself hletter hrange.1 hrange.2
      · rw [if_neg hrange]
        have hbyte : b.toNat < 256 := b.toNat_lt
        refine .octal _ _ _ (by omega) (by omega) (by omega) ?_
        rw [show b.toNat / 64 * 64 + b.toNat / 8 % 8 * 8 + b.toNat % 8 = b.toNat by omega,
          UInt8.ofNat_toNat]

/-! ## Reading a byte -/

private theorem octalDigit_spec :
    ∀ d < 8, octalDigit? (octalDigit d) = some d ∧ octalDigit d ≠ '"' ∧
    octalDigit d ≠ '\\' ∧ 32 ≤ (octalDigit d).toNat ∧ (octalDigit d).toNat < 127 := by
  decide

private theorem letters_spec : ∀ p ∈ letters, octalDigit? p.1 = none ∧ escaped p.1 = [p.2] ∧
    32 ≤ p.1.toNat ∧ p.1.toNat < 127 := by
  decide

/-- What is no octal digit is taken alone after a backslash. -/
theorem unescape_letter {c : Char} (hc : octalDigit? c = none) (cs : List Char) :
    unescape ('\\' :: c :: cs) = escaped c ++ unescape cs := by
  cases cs with
  | nil => rfl
  | cons y cs =>
      cases cs with
      | nil => rfl
      | cons z cs =>
          have hnone : octalByte? c y z = none := by rw [octalByte?, hc]; rfl
          rw [unescape, hnone]

private theorem unescape_plain {c : Char} (h : c ≠ '\\') (cs : List Char) :
    unescape (c :: cs) = Utf8.encode [c] ++ unescape cs := by
  rw [unescape]
  · exact fun _ _ _ _ e _ => h e
  · exact fun _ _ e _ => h e

/-- A byte is read back, whatever stands behind it. -/
theorem unescape_written {b : UInt8} {w : List Char} (h : Written b w) (cs : List Char) :
    unescape (w ++ cs) = b :: unescape cs := by
  cases h with
  | letter hmem =>
      obtain ⟨hdigit, hescaped, -, -⟩ := letters_spec _ hmem
      rw [List.cons_append, List.singleton_append, unescape_letter hdigit, hescaped,
        List.singleton_append]
  | itself hquote hslash hlow hhigh hencode =>
      rw [List.singleton_append, unescape_plain hslash, hencode, List.singleton_append]
  | octal x y z hx hy hz hb =>
      have hbyte : octalByte? (octalDigit x) (octalDigit y) (octalDigit z) = some b := by
        rw [octalByte?, (octalDigit_spec _ hx).1, (octalDigit_spec _ hy).1,
          (octalDigit_spec _ hz).1, hb]
        rfl
      show unescape ('\\' :: octalDigit x :: octalDigit y :: octalDigit z :: cs) = _
      rw [unescape, hbyte]

private theorem closing?_plain {c : Char} (hquote : c ≠ '"') (hslash : c ≠ '\\') (cs : List Char) :
    closing? (c :: cs) = (closing? cs).map fun (inner, rest) => (c :: inner, rest) := by
  rw [closing?]
  · exact hquote
  · exact fun _ _ e _ => hslash e
  · exact fun e _ => hslash e

/-- A byte between quotes does not close them. -/
theorem closing?_written {b : UInt8} {w : List Char} (h : Written b w) (cs : List Char) :
    closing? (w ++ cs) = (closing? cs).map fun (inner, rest) => (w ++ inner, rest) := by
  cases h with
  | letter hmem => rfl
  | itself hquote hslash hlow hhigh hencode => exact closing?_plain hquote hslash cs
  | octal x y z hx hy hz hb =>
      obtain ⟨-, hyquote, hyslash, -⟩ := octalDigit_spec _ hy
      obtain ⟨-, hzquote, hzslash, -⟩ := octalDigit_spec _ hz
      show closing? ('\\' :: octalDigit x :: octalDigit y :: octalDigit z :: cs) = _
      rw [closing?, closing?_plain hyquote hyslash, closing?_plain hzquote hzslash,
        Option.map_map, Option.map_map]
      rfl

/-- Whatever the byte, printable ASCII stands for it. -/
theorem printable_of_written {b : UInt8} {w : List Char} (h : Written b w) :
    ∀ c ∈ w, 32 ≤ c.toNat ∧ c.toNat < 127 := by
  have hslash : 32 ≤ '\\'.toNat ∧ '\\'.toNat < 127 := by decide
  cases h with
  | letter hmem =>
      have hletter := (letters_spec _ hmem).2.2
      exact List.forall_mem_cons.2 ⟨hslash, List.forall_mem_singleton.2 hletter⟩
  | itself hquote hslash hlow hhigh hencode =>
      exact List.forall_mem_singleton.2 ⟨hlow, hhigh⟩
  | octal x y z hx hy hz hb =>
      have hdigit {d : Nat} (h : d < 8) := (octalDigit_spec d h).2.2.2
      exact List.forall_mem_cons.2 ⟨hslash, List.forall_mem_cons.2 ⟨hdigit hx,
        List.forall_mem_cons.2 ⟨hdigit hy, List.forall_mem_singleton.2 (hdigit hz)⟩⟩⟩

/-! ## A text in quotes -/

private theorem unescape_quotedBytes (bs : List UInt8) : unescape (bs.flatMap quotedByte) = bs := by
  induction bs with
  | nil => rfl
  | cons b bs ih =>
      rw [List.flatMap_cons, unescape_written (written_quotedByte b), ih]

private theorem closing?_quotedBytes (bs : List UInt8) (rest : List Char) :
    closing? (bs.flatMap quotedByte ++ '"' :: rest)
      = some (bs.flatMap quotedByte ++ ['"'], rest) := by
  induction bs with
  | nil => rfl
  | cons b bs ih =>
      rw [List.flatMap_cons, List.append_assoc, closing?_written (written_quotedByte b), ih,
        Option.map_some, List.append_assoc]

/-- The quotes of a text are undone. -/
theorem unquote_quote (cs : List Char) : unquote (quote cs) = cs := by
  have hinside : inside? (quote cs) = some ((Utf8.encode cs).flatMap quotedByte) := by
    rw [quote, List.cons_append, inside?, if_pos List.getLast?_concat, List.dropLast_concat]
  rw [unquote, hinside]
  simp only [unescape_quotedBytes, Utf8.decode_encode]

example : quote "a/ü\t1".toList = "\"a/\\303\\274\\t1\"".toList := by decide

/-- A quoted text ends where its quotes do. -/
theorem quotedFront?_quote (cs rest : List Char) :
    quotedFront? (quote cs ++ rest) = some (quote cs, rest) := by
  rw [quote, List.cons_append, List.cons_append, List.append_assoc, List.singleton_append,
    quotedFront?, closing?_quotedBytes, Option.map_some]

/-- A quoted name is a token. -/
theorem isToken_quote (cs : List Char) : isToken (quote cs) = true := by
  have hfront := quotedFront?_quote cs []
  rw [List.append_nil] at hfront
  rw [isToken, hfront]
  rfl

/-- A quoted text is printable ASCII. -/
theorem printable_of_mem_quote {cs : List Char} : ∀ c ∈ quote cs, 32 ≤ c.toNat ∧ c.toNat < 127 := by
  have hquote : 32 ≤ '"'.toNat ∧ '"'.toNat < 127 := by decide
  intro c hc
  rw [quote, List.cons_append, List.mem_cons, List.mem_append, List.mem_flatMap,
    List.mem_singleton] at hc
  rcases hc with rfl | ⟨b, -, hc⟩ | rfl
  · exact hquote
  · exact printable_of_written (written_quotedByte b) c hc
  · exact hquote

/-- A control character does not stand in a quoted text. -/
theorem not_mem_quote {c : Char} (h : c.toNat < 32) (cs : List Char) : c ∉ quote cs :=
  fun hc => absurd (printable_of_mem_quote c hc).1 (Nat.not_le.2 h)

private theorem trim_quote (cs : List Char) : trim (quote cs) = quote cs := by
  refine trim_eq_self ?_ ?_
  · rintro c ⟨⟩
    decide
  · intro c hc
    rw [quote, List.getLast?_concat] at hc
    cases hc
    decide

end DiffGauge.Diff.PathQuoting

namespace DiffGauge.Diff

open Text PathQuoting

/-! ## Lines with quoted paths -/

private theorem withoutLead_append (lead : String) (cs : List Char) :
    withoutLead lead (lead.toList ++ cs) = cs := by
  rw [withoutLead, dropLead?, after?_append]
  rfl

/-- A quoted path is the path of its line. -/
theorem pathOf_quote {lead side : String} (hlead : lead.toList.length = 4)
    (hside : side = "a/" ∨ side = "b/") (path : List Char) (n : Nat) :
    pathOf side (lead.toList ++ quote (side.toList ++ path)) n
      = .ok (some (String.ofList path)) := by
  have htoken : pathToken (lead.toList ++ quote (side.toList ++ path))
      = quote (side.toList ++ path) :=
    pathToken_append hlead (not_mem_quote (by decide) _) (trim_quote _)
  have hnonempty : (quote (side.toList ++ path)).isEmpty = false := rfl
  -- no path behind a letter for its side stands for a missing file
  have hnull : side.toList ++ path ≠ "/dev/null".toList := by
    rcases hside with rfl | rfl
    · exact fun e => absurd (List.cons.inj e).1 (by decide)
    · exact fun e => absurd (List.cons.inj e).1 (by decide)
  rw [pathOf, htoken]
  simp only [hnonempty, Bool.false_eq_true, if_false, unquote_quote, if_neg hnull,
    withoutLead_append]

/-- The line that opens a section, with both paths in quotes. -/
def quotedOpening (old new : List Char) : Line :=
  "diff --git ".toList ++ (quote ("a/".toList ++ old) ++ ' ' :: quote ("b/".toList ++ new))

/-- A header of two quoted names gives the names. -/
theorem headerPaths?_quotedOpening (old new : List Char) :
    headerPaths? (quotedOpening old new) = some (String.ofList old, String.ofList new) := by
  have hrest : dropLead? "diff --git " (quotedOpening old new) = some _ := after?_append _ _
  have hcontains : (quote ("a/".toList ++ old) ++ ' ' :: quote ("b/".toList ++ new)).contains '"'
      = true := rfl
  have hpair : tokenPair? quotedFront?
      (quote ("a/".toList ++ old) ++ ' ' :: quote ("b/".toList ++ new))
      = some (quote ("a/".toList ++ old), quote ("b/".toList ++ new)) := by
    rw [tokenPair?, quotedFront?_quote]
    simp only [isToken_quote, if_true]
  simp only [headerPaths?, hrest, bind, Option.bind, hcontains, if_true, hpair, Option.orElse,
    HOrElse.hOrElse, OrElse.orElse, sidePaths, unquote_quote, withoutLead_append]
  rfl

/-- The headers of a rename, with both paths in quotes. -/
def quotedRenameHeaders (old new : List Char) : List Line :=
  ["rename from ".toList ++ quote old, "rename to ".toList ++ quote new]

private theorem read?_quotedRenameHeaders (old new : List Char) :
    (quotedRenameHeaders old new).map ExtendedHeader.read?
      = [some (.renamedFrom (String.ofList old)), some (.renamedTo (String.ofList new))] := by
  have hfrom : ExtendedHeader.read? ("rename from ".toList ++ quote old)
      = some (.renamedFrom (String.ofList (unquote (quote old)))) := rfl
  have hto : ExtendedHeader.read? ("rename to ".toList ++ quote new)
      = some (.renamedTo (String.ofList (unquote (quote new)))) := rfl
  rw [quotedRenameHeaders, List.map_cons, List.map_singleton, hfrom, hto, unquote_quote,
    unquote_quote]

/-! ## A diff with quoted paths -/

/-- A quoted name is not empty. -/
theorem quote_ne_nil (cs : List Char) : quote cs ≠ [] := List.cons_ne_nil _ _

private theorem quote_isClean (cs : List Char) : IsClean (quote cs) := by
  refine ⟨not_mem_quote (by decide) cs, ?_⟩
  rw [quote, List.getLast?_concat]
  decide

private theorem quotedOpening_isClean (old new : List Char) : IsClean (quotedOpening old new) := by
  have hright : IsClean ([' '] ++ quote ("b/".toList ++ new)) :=
    (quote_isClean _).append (by decide) (quote_ne_nil _)
  have hboth := hright.append (not_mem_quote (c := '\n') (by decide) ("a/".toList ++ old))
    (List.cons_ne_nil _ _)
  exact hboth.append (by decide) (List.append_ne_nil_of_left_ne_nil (quote_ne_nil _) _)

private theorem quotedRenameHeaders_isClean (old new : List Char) :
    ∀ l ∈ quotedRenameHeaders old new, IsClean l := by
  refine List.forall_mem_cons.2 ⟨?_, List.forall_mem_singleton.2 ?_⟩
  · exact (quote_isClean old).append (by decide) (quote_ne_nil _)
  · exact (quote_isClean new).append (by decide) (quote_ne_nil _)

/-- The text of a rename and nothing else. -/
def quotedRename (old new : List Char) : String :=
  String.ofList ((quotedOpening old new :: quotedRenameHeaders old new).flatMap fun l =>
    l ++ ['\n'])

/-- A rename is read back from its quoted paths, whatever the paths are. -/
theorem read_quotedRename (old new : List Char) :
    read (quotedRename old new)
      = .ok [{ oldPath := some (String.ofList old)
               newPath := some (String.ofList new)
               status := .renamed
               isRename := true }] := by
  have hlines : linesOf (quotedRename old new).toList
      = quotedOpening old new :: quotedRenameHeaders old new := by
    have hclean : ∀ l ∈ quotedOpening old new :: quotedRenameHeaders old new, IsClean l :=
      List.forall_mem_cons.2 ⟨quotedOpening_isClean old new, quotedRenameHeaders_isClean old new⟩
    rw [quotedRename, String.toList_ofList]
    refine linesOf_broken hclean ?_
    show some 'd' ≠ some '\uFEFF'
    decide
  have hsayings : (quotedRenameHeaders old new).map ExtendedHeader.read?
      = List.map some [.renamedFrom (String.ofList old), .renamedTo (String.ofList new)] :=
    read?_quotedRenameHeaders old new
  have hpreface : readPreface { oldPath := String.ofList old, newPath := String.ofList new } 2
      (quotedRenameHeaders old new ++ []) = _ := readPreface_append _ 2 hsayings nofun
  rw [List.append_nil] at hpreface
  have hsection : readSection (quotedOpening old new) 1 (quotedRenameHeaders old new)
      = .ok ⟨{ oldPath := some (String.ofList old)
               newPath := some (String.ofList new)
               status := .renamed
               isRename := true }, ⟨4, []⟩⟩ := by
    rw [readSection, headerPaths?_quotedOpening]
    simp only [hpreface]
    rfl
  rw [read, hlines, readSections_opened rfl hsection, readSections]
  rfl

/-! ## All readers -/

/-- Every reader of a path undoes the quotes: no path is changed by them, the path lines name the
    path behind the letter for their side, the headers of a rename name theirs, and the line that
    opens a section names both. So a diff of these lines is read as the rename. -/
theorem readers_undo_quote (s old new : List Char) (n : Nat) :
    unquote (quote s) = s ∧
      pathOf "a/" (oldPathLead.toList ++ quote ("a/".toList ++ old)) n
        = .ok (some (String.ofList old)) ∧
      pathOf "b/" (newPathLead.toList ++ quote ("b/".toList ++ new)) n
        = .ok (some (String.ofList new)) ∧
      (quotedRenameHeaders old new).map ExtendedHeader.read?
        = [some (.renamedFrom (String.ofList old)), some (.renamedTo (String.ofList new))] ∧
      headerPaths? (quotedOpening old new) = some (String.ofList old, String.ofList new) ∧
      read (quotedRename old new)
        = .ok [{ oldPath := some (String.ofList old)
                 newPath := some (String.ofList new)
                 status := .renamed
                 isRename := true }] :=
  ⟨unquote_quote s, pathOf_quote rfl (.inl rfl) old n, pathOf_quote rfl (.inr rfl) new n,
    read?_quotedRenameHeaders old new, headerPaths?_quotedOpening old new,
    read_quotedRename old new⟩

end DiffGauge.Diff
