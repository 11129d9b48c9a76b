import DiffGauge.Proofs.Diff.Quoting
import Mathlib

/-!
# Names as they are printed

A name is printed as it is if all its characters are plain, and in quotes otherwise (`shown`); a
blank is plain. Between quotes a plain character still stands for itself, and what is written for
any other begins with a backslash and holds no blank. So a text that begins with a blank, and is
plain from there on, stands between the quotes exactly where it stands in the name
(`infix_quotedText_iff`).
-/

namespace DiffGauge.Diff.PathQuoting

open Text

/-! ## Plain characters -/

/-- A character that stands for itself in a printed name: printable ASCII, a quote and a backslash
    apart. -/
def IsPlain (c : Char) : Prop := 32 ≤ c.toNat ∧ c.toNat < 127 ∧ c ≠ '"' ∧ c ≠ '\\'

instance (c : Char) : Decidable (IsPlain c) :=
  inferInstanceAs (Decidable (32 ≤ c.toNat ∧ c.toNat < 127 ∧ c ≠ '"' ∧ c ≠ '\\'))

/-- A byte for which a name needs quotes. -/
def isUnusual (b : UInt8) : Bool := b < 32 || 127 ≤ b || b == 34 || b == 92

private theorem isUnusual_iff (b : UInt8) :
    isUnusual b = true ↔ b.toNat < 32 ∨ 127 ≤ b.toNat ∨ b.toNat = 34 ∨ b.toNat = 92 := by
  simp only [isUnusual, Bool.or_eq_true, decide_eq_true_iff, beq_iff_eq, or_assoc,
    UInt8.lt_iff_toNat_lt, UInt8.le_iff_toNat_le, ← UInt8.toNat_inj]
  rfl

private theorem isPlain_iff (c : Char) :
    IsPlain c ↔ ¬(c.toNat < 32 ∨ 127 ≤ c.toNat ∨ c.toNat = 34 ∨ c.toNat = 92) := by
  have hquote : c = '"' ↔ c.toNat = 34 := Char.toNat_inj.symm
  have hslash : c = '\\' ↔ c.toNat = 92 := Char.toNat_inj.symm
  rw [IsPlain, ne_eq, ne_eq, hquote, hslash]
  omega

/-- A plain character has one byte, which is not unusual. -/
theorem encode_plain {c : Char} (h : IsPlain c) :
    Utf8.encode [c] = [UInt8.ofNat c.toNat] ∧ isUnusual (UInt8.ofNat c.toNat) = false := by
  have hbyte : (UInt8.ofNat c.toNat).toNat = c.toNat :=
    UInt8.toNat_ofNat_of_lt' (Nat.lt_trans h.2.1 (by decide))
  refine ⟨Utf8.encode_ascii (Nat.le_of_lt_succ (Nat.lt_succ_of_lt h.2.1)), ?_⟩
  rw [← Bool.not_eq_true, isUnusual_iff, hbyte]
  exact (isPlain_iff c).1 h

/-- The bytes of a character outside ASCII are outside ASCII. -/
theorem le_of_mem_utf8EncodeChar {c : Char} (h : 127 < c.toNat) :
    ∀ b ∈ String.utf8EncodeChar c, 128 ≤ b.toNat := by
  have hbyte {n : Nat} (hlow : 128 ≤ n) (hhigh : n < 256) : 128 ≤ (UInt8.ofNat n).toNat := by
    rwa [UInt8.toNat_ofNat_of_lt' hhigh]
  have hone : ¬c.val.toNat ≤ 127 := Nat.not_le.2 h
  simp only [String.utf8EncodeChar, if_neg hone]
  split
  · exact List.forall_mem_cons.2 ⟨hbyte (by omega) (by omega),
      List.forall_mem_singleton.2 (hbyte (by omega) (by omega))⟩
  split
  · exact List.forall_mem_cons.2 ⟨hbyte (by omega) (by omega),
      List.forall_mem_cons.2 ⟨hbyte (by omega) (by omega),
        List.forall_mem_singleton.2 (hbyte (by omega) (by omega))⟩⟩
  · exact List.forall_mem_cons.2 ⟨hbyte (by omega) (by omega),
      List.forall_mem_cons.2 ⟨hbyte (by omega) (by omega),
        List.forall_mem_cons.2 ⟨hbyte (by omega) (by omega),
          List.forall_mem_singleton.2 (hbyte (by omega) (by omega))⟩⟩⟩

/-- All bytes of a character that is not plain are unusual. -/
theorem isUnusual_of_mem_encode {c : Char} (h : ¬IsPlain c) :
    ∀ b ∈ Utf8.encode [c], isUnusual b = true := by
  intro b hb
  rw [isUnusual_iff]
  by_cases hascii : c.toNat ≤ 127
  · rw [Utf8.encode_ascii hascii, List.mem_singleton] at hb
    rw [hb, UInt8.toNat_ofNat_of_lt' (Nat.lt_of_le_of_lt hascii (by decide))]
    exact Decidable.not_not.1 (mt (isPlain_iff c).2 h)
  · rw [Utf8.encode, List.flatMap_singleton] at hb
    have hlow := le_of_mem_utf8EncodeChar (Nat.lt_of_not_le hascii) b hb
    exact .inr (.inl (Nat.le_of_succ_le hlow))

private theorem encode_cons (c : Char) (cs : List Char) :
    Utf8.encode (c :: cs) = Utf8.encode [c] ++ Utf8.encode cs := by
  rw [Utf8.encode, Utf8.encode, Utf8.encode, List.flatMap_cons, List.flatMap_singleton]

private theorem encode_singleton_ne_nil (c : Char) : Utf8.encode [c] ≠ [] := by
  intro hnil
  have hdecode := Utf8.decode_encode [c]
  rw [hnil] at hdecode
  cases hdecode

/-- A name goes without quotes exactly if all its characters are plain. -/
theorem needsQuotes_eq_false_iff {cs : List Char} :
    needsQuotes cs = false ↔ ∀ c ∈ cs, IsPlain c := by
  show (Utf8.encode cs).any isUnusual = false ↔ _
  induction cs with
  | nil => exact ⟨fun _ => List.forall_mem_nil _, fun _ => rfl⟩
  | cons c cs ih =>
      rw [encode_cons, List.any_append, Bool.or_eq_false_iff, ih, List.forall_mem_cons]
      refine and_congr_left fun _ => ?_
      by_cases hc : IsPlain c
      · obtain ⟨hencode, hplain⟩ := encode_plain hc
        rw [hencode, List.any_cons, hplain]
        exact ⟨fun _ => hc, fun _ => rfl⟩
      · obtain ⟨b, hb⟩ := List.exists_mem_of_ne_nil _ (encode_singleton_ne_nil c)
        have hany : (Utf8.encode [c]).any isUnusual = true :=
          List.any_eq_true.2 ⟨b, hb, isUnusual_of_mem_encode hc b hb⟩
        rw [hany]
        exact ⟨fun e => absurd e (by decide), fun hplain => absurd hplain hc⟩

/-! ## Between quotes -/

/-- What stands between the quotes of a name. -/
def quotedText (cs : List Char) : List Char := (Utf8.encode cs).flatMap quotedByte

/-- A quoted name stands between quotation marks. -/
theorem quote_eq (cs : List Char) : quote cs = '"' :: (quotedText cs ++ ['"']) := rfl

private theorem quotedByte_usual :
    ∀ n < 256, isUnusual (UInt8.ofNat n) = false → quotedByte (UInt8.ofNat n) = [Char.ofNat n] := by
  decide +kernel

private theorem quotedByte_unusual :
    ∀ n < 256, isUnusual (UInt8.ofNat n) = true →
      (quotedByte (UInt8.ofNat n)).head? = some '\\' ∧ ' ' ∉ quotedByte (UInt8.ofNat n) := by
  decide +kernel

private theorem quotedText_cons_plain {c : Char} (h : IsPlain c) (cs : List Char) :
    quotedText (c :: cs) = c :: quotedText cs := by
  obtain ⟨hencode, husual⟩ := encode_plain h
  have hbyte := quotedByte_usual c.toNat (Nat.lt_trans h.2.1 (by decide)) husual
  rw [Char.ofNat_toNat] at hbyte
  rw [quotedText, encode_cons, hencode, List.singleton_append, List.flatMap_cons, hbyte]
  rfl

/-- What is not plain is written behind a backslash, without a blank. -/
theorem quotedText_cons_unusual {c : Char} (h : ¬IsPlain c) (cs : List Char) :
    ∃ w, quotedText (c :: cs) = '\\' :: (w ++ quotedText cs) ∧ ' ' ∉ w := by
  have hbytes : ∀ b ∈ Utf8.encode [c],
      (quotedByte b).head? = some '\\' ∧ ' ' ∉ quotedByte b := by
    intro b hb
    have hspec := quotedByte_unusual b.toNat b.toNat_lt
    rw [UInt8.ofNat_toNat] at hspec
    exact hspec (isUnusual_of_mem_encode h b hb)
  obtain ⟨b, bs, hencode⟩ := List.exists_cons_of_ne_nil (encode_singleton_ne_nil c)
  rw [hencode, List.forall_mem_cons] at hbytes
  obtain ⟨⟨hhead, hblank⟩, hmore⟩ := hbytes
  obtain ⟨w, hw⟩ := List.head?_eq_some_iff.1 hhead
  refine ⟨w ++ bs.flatMap quotedByte, ?_, ?_⟩
  · rw [quotedText, encode_cons, hencode, List.flatMap_append, List.flatMap_cons, hw]
    rfl
  · rw [hw, List.mem_cons, not_or] at hblank
    rw [List.mem_append, List.mem_flatMap]
    rintro (hmem | ⟨b', hb', hmem⟩)
    · exact hblank.2 hmem
    · exact (hmore b' hb').2 hmem

/-- A plain text begins what stands between the quotes exactly if it begins the name. -/
theorem prefix_quotedText_iff {p : List Char} (hp : ∀ c ∈ p, IsPlain c) (cs : List Char) :
    p <+: quotedText cs ↔ p <+: cs := by
  induction p generalizing cs with
  | nil => exact ⟨fun _ => List.nil_prefix, fun _ => List.nil_prefix⟩
  | cons a p ih =>
      obtain ⟨ha, hp⟩ := List.forall_mem_cons.1 hp
      cases cs with
      | nil => rfl
      | cons c cs =>
          by_cases hc : IsPlain c
          · rw [quotedText_cons_plain hc, List.cons_prefix_cons, List.cons_prefix_cons, ih hp]
          · obtain ⟨w, hw, -⟩ := quotedText_cons_unusual hc cs
            rw [hw, List.cons_prefix_cons, List.cons_prefix_cons]
            exact ⟨fun h => absurd h.1 ha.2.2.2, fun h => absurd (h.1 ▸ ha) hc⟩

/-- A text that begins with a blank does not begin in one that has none. -/
theorem infix_append_of_no_blank {p w : List Char} (hw : ' ' ∉ w) (cs : List Char) :
    ' ' :: p <:+: w ++ cs ↔ ' ' :: p <:+: cs := by
  induction w with
  | nil => rfl
  | cons c w ih =>
      rw [List.mem_cons, not_or] at hw
      rw [List.cons_append, List.infix_cons_iff, List.cons_prefix_cons, ih hw.2]
      exact ⟨fun h => h.resolve_left fun hc => hw.1 hc.1, .inr⟩

/-- A plain text that begins with a blank stands between the quotes exactly if it stands in the
    name. -/
theorem infix_quotedText_iff {p : List Char} (hp : ∀ c ∈ p, IsPlain c) (cs : List Char) :
    ' ' :: p <:+: quotedText cs ↔ ' ' :: p <:+: cs := by
  have hblank : IsPlain ' ' := by decide
  have hall : ∀ c ∈ ' ' :: p, IsPlain c := List.forall_mem_cons.2 ⟨hblank, hp⟩
  induction cs with
  | nil => rfl
  | cons c cs ih =>
      by_cases hc : IsPlain c
      · have hprefix := prefix_quotedText_iff hall (c :: cs)
        rw [quotedText_cons_plain hc] at hprefix ⊢
        rw [List.infix_cons_iff, List.infix_cons_iff]
        exact or_congr hprefix ih
      · obtain ⟨w, hw, hnone⟩ := quotedText_cons_unusual hc cs
        have hskip : ' ' ∉ '\\' :: w := List.not_mem_cons_of_ne_of_not_mem (by decide) hnone
        have hskip' : ' ' ∉ [c] :=
          List.not_mem_cons_of_ne_of_not_mem (fun e => hc (e ▸ hblank)) List.not_mem_nil
        show ' ' :: p <:+: quotedText (c :: cs) ↔ ' ' :: p <:+: [c] ++ cs
        rw [hw, ← List.cons_append, infix_append_of_no_blank hskip, infix_append_of_no_blank hskip']
        exact ih

/-! ## Printed names -/

/-- A name as it is printed. -/
def shown (cs : List Char) : List Char := if needsQuotes cs then quote cs else cs

/-- A name that needs quotation marks is shown in them. -/
theorem shown_of_needsQuotes {cs : List Char} (h : needsQuotes cs = true) :
    shown cs = quote cs := if_pos h

/-- A name that needs none is shown as it is. -/
theorem shown_of_plain {cs : List Char} (h : needsQuotes cs = false) : shown cs = cs := by
  rw [shown, h]
  rfl

/-- A printed name is the name. -/
theorem unquote_shown (cs : List Char) : unquote (shown cs) = cs := by
  cases h : needsQuotes cs with
  | true => rw [shown_of_needsQuotes h, unquote_quote]
  | false =>
      rw [shown_of_plain h]
      refine unquote_eq_self fun e => ?_
      exact (needsQuotes_eq_false_iff.1 h '"' (List.mem_of_head? e)).2.2.1 rfl

/-- A printed name is printable ASCII. -/
theorem printable_of_mem_shown {cs : List Char} :
    ∀ c ∈ shown cs, 32 ≤ c.toNat ∧ c.toNat < 127 := by
  cases h : needsQuotes cs with
  | true =>
      rw [shown_of_needsQuotes h]
      exact printable_of_mem_quote
  | false =>
      rw [shown_of_plain h]
      exact fun c hc => (needsQuotes_eq_false_iff.1 h c hc).imp_right And.left

/-- A name is never shown as nothing. -/
theorem shown_ne_nil {cs : List Char} (h : cs ≠ []) : shown cs ≠ [] := by
  rw [shown]
  split
  · exact quote_ne_nil cs
  · exact h

/-- A text of printable characters is a line that is read as it is written. -/
theorem isClean_of_printable {cs : List Char} (h : ∀ c ∈ cs, 32 ≤ c.toNat ∧ c.toNat < 127) :
    IsClean cs := by
  refine ⟨fun hc => ?_, fun hc => ?_⟩
  · exact absurd (h _ hc).1 (by decide)
  · exact absurd (h _ (List.mem_of_getLast? hc)).1 (by decide)

/-- A plain text in front of a name does not matter to its quotes. -/
theorem needsQuotes_append {side : List Char} (hside : ∀ c ∈ side, IsPlain c) (cs : List Char) :
    needsQuotes (side ++ cs) = needsQuotes cs := by
  rw [Bool.eq_iff_iff, ← not_iff_not, Bool.not_eq_true, Bool.not_eq_true, needsQuotes_eq_false_iff,
    needsQuotes_eq_false_iff, List.forall_mem_append]
  exact and_iff_right hside

end DiffGauge.Diff.PathQuoting
