import DiffGauge.Text.Markup
import Mathlib

/-!
# What markup shows

A text is cut into pieces, and what it shows is what its pieces show. A tag shows nothing but half
of the backslashes before it, and a bracket that opens no tag loses one of its backslashes, so a
text shows as itself if and only if no tag and no bracket after a backslash stands in it. Showing a
text fails if and only if one of its tags ends a style that is not set there.

* `pieces_induction` follows the cutting of a text, piece by piece;
* `strippedFrom_eq` takes apart what is shown and whether it fails;
* `isPlain_iff_pieces` finds the plain texts by their characters alone;
* `tags_escape` is why an escaped text never fails.
-/

namespace DiffGauge.Text.Markup

/-! ## Where a tag ends -/

/-- A bracket, which no tag has inside. -/
def isBracket (c : Char) : Bool := c == '[' || c == ']'

/-- No bracket stands in the text. -/
def NoBracket (cs : List Char) : Prop := ∀ c ∈ cs, isBracket c = false

instance (cs : List Char) : Decidable (NoBracket cs) :=
  List.decidableBAll (fun c => isBracket c = false) cs

private theorem noBracket_nil : NoBracket [] := by decide

/-- Two texts without brackets are one without brackets. -/
theorem NoBracket.append {cs ds : List Char} (hcs : NoBracket cs) (hds : NoBracket ds) :
    NoBracket (cs ++ ds) := by
  intro c hc
  rcases List.mem_append.1 hc with hc | hc
  · exact hcs c hc
  · exact hds c hc

private theorem isBracket_of_opensTag {c : Char} (h : opensTag c = true) : isBracket c = false := by
  by_contra hb
  simp only [isBracket, Bool.or_eq_true, beq_iff_eq, Bool.not_eq_false] at hb
  rcases hb with rfl | rfl
  · exact absurd h (by decide)
  · exact absurd h (by decide)

/-- A tag has a character to begin with, no bracket inside, and a bracket at its end. -/
theorem tagBody?_eq_some_iff {cs body rest : List Char} :
    tagBody? cs = some (body, rest) ↔
      cs = body ++ ']' :: rest ∧ NoBracket body ∧ body.head?.any opensTag = true := by
  have hinside : ∀ d : Char, (d != '[' && d != ']') = !isBracket d := by
    intro d
    simp [isBracket, bne]
  simp only [tagBody?, hinside, List.span_eq_takeWhile_dropWhile]
  constructor
  · intro h
    cases cs with
    | nil => exact nomatch h
    | cons c cs =>
        have hc : opensTag c = true := by
          by_contra hc
          simp [hc] at h
        simp only [hc, if_true] at h
        split at h
        · rename_i body' rest' hspan
          obtain ⟨hbody, hrest⟩ := Prod.mk.inj hspan
          obtain ⟨rfl, rfl⟩ := Prod.mk.inj (Option.some.inj h)
          refine ⟨?_, ?_, ?_⟩
          · rw [← hbody, ← hrest, List.takeWhile_append_dropWhile]
          · intro d hd
            rw [← hbody] at hd
            simpa using List.mem_takeWhile_imp hd
          · rw [← hbody, List.takeWhile_cons_of_pos (by simp [isBracket_of_opensTag hc])]
            simpa using hc
        · exact nomatch h
  · rintro ⟨rfl, hbody, hhead⟩
    cases body with
    | nil => simp at hhead
    | cons c body =>
        have hc : opensTag c = true := by simpa using hhead
        have hpos : ∀ d ∈ c :: body, (!isBracket d) = true := by
          intro d hd
          rw [hbody d hd]
          rfl
        have htake : ((c :: body) ++ ']' :: rest).takeWhile (!isBracket ·) = c :: body := by
          rw [List.takeWhile_append_of_pos hpos]
          simp [isBracket]
        have hdrop : ((c :: body) ++ ']' :: rest).dropWhile (!isBracket ·) = ']' :: rest := by
          rw [List.dropWhile_append_of_pos hpos]
          simp [isBracket]
        rw [List.cons_append] at htake hdrop ⊢
        simp only [hc, if_true, htake, hdrop]

/-- A tag is found by the first character of a text and the first bracket in it. -/
theorem tagBody?_isSome_iff {cs : List Char} :
    (tagBody? cs).isSome = true ↔
      cs.head?.any opensTag = true ∧ cs.find? isBracket = some ']' := by
  rw [Option.isSome_iff_exists, Prod.exists]
  constructor
  · rintro ⟨body, rest, h⟩
    obtain ⟨rfl, hbody, hhead⟩ := tagBody?_eq_some_iff.1 h
    constructor
    · cases body with
      | nil => simp at hhead
      | cons c body => simpa using hhead
    · rw [List.find?_eq_some_iff_append]
      exact ⟨rfl, body, rest, rfl, fun d hd => by simp [hbody d hd]⟩
  · rintro ⟨hhead, hfind⟩
    obtain ⟨-, body, rest, rfl, hbody⟩ := List.find?_eq_some_iff_append.1 hfind
    refine ⟨body, rest, tagBody?_eq_some_iff.2 ⟨rfl, ?_, ?_⟩⟩
    · intro d hd
      simpa using hbody d hd
    · cases body with
      | nil => exact absurd (Option.any_some.symm.trans hhead) (by decide)
      | cons c body => simpa using hhead

/-! ## The pieces of a text -/

/-- The pieces of a text before which some backslashes stand. -/
def piecesAfter (slashes : Nat) (cs : List Char) : List Piece :=
  piecesFrom (cs.length + 1) slashes cs

private theorem length_of_tagBody?
    {cs body rest : List Char} (h : tagBody? cs = some (body, rest)) :
    rest.length < cs.length := by
  obtain ⟨rfl, -, -⟩ := tagBody?_eq_some_iff.1 h
  simp only [List.length_append, List.length_cons]
  omega

/-- Any bound above the length of a text gives the same pieces. -/
theorem piecesFrom_eq {fuel n : Nat} {cs : List Char} (h : cs.length < fuel) :
    piecesFrom fuel n cs = piecesAfter n cs := by
  suffices hsame : ∀ (f g n : Nat) (cs : List Char), cs.length < f → cs.length < g →
      piecesFrom f n cs = piecesFrom g n cs from
    hsame _ _ _ _ h (Nat.lt_succ_self _)
  intro f
  induction f with
  | zero => intro g n cs hf _; exact absurd hf (Nat.not_lt_zero _)
  | succ f ih =>
      intro g n cs hf hg
      cases g with
      | zero => exact absurd hg (Nat.not_lt_zero _)
      | succ g =>
          cases cs with
          | nil => rfl
          | cons c cs =>
              have hf' : cs.length < f := Nat.lt_of_succ_lt_succ hf
              have hg' : cs.length < g := Nat.lt_of_succ_lt_succ hg
              rw [piecesFrom, piecesFrom, ih g (n + 1) cs hf' hg', ih g 0 cs hf' hg']
              cases hbody : tagBody? cs with
              | none => rfl
              | some found =>
                  obtain ⟨body, rest⟩ := found
                  have hrest : rest.length < cs.length := length_of_tagBody? hbody
                  simp only [ih g 0 rest (hrest.trans hf') (hrest.trans hg')]

/-- The pieces of a text with no backslash before it. -/
theorem pieces_eq (cs : List Char) : pieces cs = piecesAfter 0 cs := rfl

@[simp]
private theorem piecesAfter_nil (n : Nat) : piecesAfter n [] = List.replicate n (.char '\\') := rfl

@[simp]
private theorem piecesAfter_slash (n : Nat) (cs : List Char) :
    piecesAfter n ('\\' :: cs) = piecesAfter (n + 1) cs := rfl

/-- A tag is a piece, with the backslashes before it. -/
theorem piecesAfter_tag {n : Nat} {cs body rest : List Char} (h : tagBody? cs = some (body, rest)) :
    piecesAfter n ('[' :: cs) = .tag n body :: piecesAfter 0 rest := by
  rw [piecesAfter, List.length_cons, piecesFrom, if_neg (by decide), if_pos rfl, h]
  show Piece.tag n body :: piecesFrom (cs.length + 1) 0 rest = _
  rw [piecesFrom_eq ((length_of_tagBody? h).trans (Nat.lt_succ_self _))]

private theorem piecesAfter_bracket {n : Nat} {cs : List Char} (h : tagBody? cs = none) :
    piecesAfter n ('[' :: cs) = .bracket n :: piecesAfter 0 cs := by
  rw [piecesAfter, List.length_cons, piecesFrom, if_neg (by decide), if_pos rfl, h]
  rfl

/-- A character that begins no tag is a piece, after the backslashes before it. -/
theorem piecesAfter_char {n : Nat} {c : Char} (hslash : c ≠ '\\') (hbracket : c ≠ '[')
    (cs : List Char) :
    piecesAfter n (c :: cs) = List.replicate n (.char '\\') ++ .char c :: piecesAfter 0 cs := by
  rw [piecesAfter, List.length_cons, piecesFrom, if_neg hslash, if_neg hbracket]
  rfl

private theorem piecesAfter_backslashes (n k : Nat) (cs : List Char) :
    piecesAfter n (backslashes k ++ cs) = piecesAfter (n + k) cs := by
  induction k generalizing n with
  | zero => rfl
  | succ k ih =>
      show piecesAfter (n + 1) (backslashes k ++ cs) = _
      rw [ih, Nat.add_right_comm, Nat.add_assoc]

/-- What holds of a text by the piece that it begins with and what comes after that piece. -/
@[elab_as_elim]
theorem pieces_induction {motive : Nat → List Char → Prop} (nil : ∀ n, motive n [])
    (slash : ∀ n cs, motive (n + 1) cs → motive n ('\\' :: cs))
    (tag : ∀ n cs body rest, tagBody? cs = some (body, rest) → motive 0 rest → motive n ('[' :: cs))
    (bracket : ∀ n cs, tagBody? cs = none → motive 0 cs → motive n ('[' :: cs))
    (char : ∀ n c cs, c ≠ '\\' → c ≠ '[' → motive 0 cs → motive n (c :: cs)) (n : Nat)
    (cs : List Char) : motive n cs := by
  induction hlength : cs.length using Nat.strong_induction_on generalizing n cs with
  | _ m ih =>
      subst hlength
      cases cs with
      | nil => exact nil n
      | cons c cs =>
          have hcs : ∀ k, motive k cs := fun k => ih _ (Nat.lt_succ_self _) k cs rfl
          by_cases hslash : c = '\\'
          · subst hslash
            exact slash n cs (hcs _)
          · by_cases hbracket : c = '['
            · subst hbracket
              cases hbody : tagBody? cs with
              | none => exact bracket n cs hbody (hcs 0)
              | some found =>
                  obtain ⟨body, rest⟩ := found
                  have hshort := (length_of_tagBody? hbody).trans (Nat.lt_succ_self _)
                  exact tag n cs body rest hbody (ih _ hshort 0 rest rfl)
            · exact char n c cs hslash hbracket (hcs 0)

private theorem flatMap_replicate_char
    (f : Piece → List Char) (hf : f (.char '\\') = ['\\']) (n : Nat) :
    (List.replicate n (Piece.char '\\')).flatMap f = backslashes n := by
  induction n with
  | zero => rfl
  | succ n ih =>
      rw [List.replicate_succ, List.flatMap_cons, hf, ih]
      rfl

/-- The pieces of a text make it up. -/
theorem text_piecesAfter (n : Nat) (cs : List Char) :
    (piecesAfter n cs).flatMap Piece.text = backslashes n ++ cs := by
  induction n, cs using pieces_induction with
  | nil n => rw [piecesAfter_nil, flatMap_replicate_char _ rfl, List.append_nil]
  | slash n cs ih =>
      rw [piecesAfter_slash, ih, backslashes, List.replicate_succ', List.append_assoc]
      rfl
  | tag n cs body rest h ih =>
      obtain ⟨rfl, -, -⟩ := tagBody?_eq_some_iff.1 h
      rw [piecesAfter_tag h, List.flatMap_cons, ih]
      simp [Piece.text, backslashes]
  | bracket n cs h ih =>
      rw [piecesAfter_bracket h, List.flatMap_cons, ih]
      simp [Piece.text, backslashes]
  | char n c cs hslash hbracket ih =>
      rw [piecesAfter_char hslash hbracket, List.flatMap_append, flatMap_replicate_char _ rfl,
        List.flatMap_cons, ih]
      rfl

/-! ## What is shown, and whether it fails -/

/-- What a piece shows. -/
def Piece.shown : Piece → List Char
  | .char c => [c]
  | .bracket n => backslashes (n - 1) ++ ['[']
  | .tag n body =>
    if n % 2 = 1 then backslashes (n / 2) ++ '[' :: body ++ [']'] else backslashes (n / 2)

/-- The tag that a piece is, unless a backslash makes it plain. -/
def Piece.tag? : Piece → Option (List Char)
  | .tag n body => if n % 2 = 1 then none else some body
  | _ => none

/-- The styles that are set after some tags. -/
def stylesAfter? (styles : List String) (tags : List (List Char)) : Option (List String) :=
  tags.foldlM (fun styles body => afterTag? body styles) styles

/-- What is shown is what the pieces show. Only the tags decide whether it is shown at all. -/
theorem strippedFrom_eq (styles : List String) (ps : List Piece) :
    strippedFrom styles ps
      = (stylesAfter? styles (ps.filterMap Piece.tag?)).map fun _ => ps.flatMap Piece.shown := by
  induction ps generalizing styles with
  | nil => rfl
  | cons p ps ih =>
      cases p with
      | char c =>
          rw [strippedFrom, ih, Option.map_map]
          rfl
      | bracket n =>
          rw [strippedFrom, ih, Option.map_map, List.filterMap_cons_none rfl]
          simp [Piece.shown, Function.comp_def]
      | tag n body =>
          by_cases hodd : n % 2 = 1
          · rw [strippedFrom, if_pos hodd, ih, Option.map_map]
            simp [Piece.shown, Piece.tag?, hodd, Function.comp_def]
          · rw [strippedFrom, if_neg hodd]
            simp only [Piece.shown, Piece.tag?, hodd, if_false, stylesAfter?, List.flatMap_cons,
              List.filterMap_cons, List.foldlM_cons]
            cases hafter : afterTag? body styles with
            | none => rfl
            | some styles' =>
                show Option.map _ (strippedFrom styles' ps) = _
                rw [ih, Option.map_map]
                rfl

/-- The tags of a text. -/
def tags (cs : List Char) : List (List Char) := (pieces cs).filterMap Piece.tag?

/-- What a text shows. -/
def plain (cs : List Char) : List Char := (pieces cs).flatMap Piece.shown

/-- What is shown is the plain part of a text, if its tags can be followed. -/
theorem strip?_eq (s : String) :
    strip? s = (stylesAfter? [] (tags s.toList)).map fun _ =>
      String.ofList ((plain s.toList).filter (!isDropped ·)) := by
  rw [strip?, strippedFrom_eq, Option.map_map]
  rfl

/-- A tag of the text ends a style that is not set there: before it stand tags that can be read,
    and with the styles that they leave it cannot be. -/
def EndsNothing (s : String) : Prop :=
  ∃ front body name back styles, tags s.toList = front ++ body :: back ∧
    stylesAfter? [] front = some styles ∧ tagName body = '/' :: name ∧ closed? name styles = none

/-- Only a closing tag can fail. -/
theorem afterTag?_eq_none_iff {body : List Char} {styles : List String} :
    afterTag? body styles = none ↔
      ∃ name, tagName body = '/' :: name ∧ closed? name styles = none := by
  rw [afterTag?]
  split
  · rename_i name hname
    rw [hname]
    simp
  · rename_i hname
    constructor
    · intro h
      exact nomatch h
    · rintro ⟨name, h, -⟩
      exact absurd h (hname name)

private theorem stylesAfter?_eq_none_iff {styles : List String} {tags : List (List Char)} :
    stylesAfter? styles tags = none ↔
      ∃ front body back styles', tags = front ++ body :: back ∧
        stylesAfter? styles front = some styles' ∧ afterTag? body styles' = none := by
  induction tags generalizing styles with
  | nil => simp [stylesAfter?]
  | cons body tags ih =>
      rw [stylesAfter?, List.foldlM_cons]
      constructor
      · intro h
        cases hafter : afterTag? body styles with
        | none => exact ⟨[], body, tags, styles, rfl, rfl, hafter⟩
        | some next =>
            rw [hafter] at h
            obtain ⟨front, bad, back, styles', rfl, hfront, hbad⟩ := ih.1 h
            refine ⟨body :: front, bad, back, styles', rfl, ?_, hbad⟩
            rw [stylesAfter?, List.foldlM_cons, hafter]
            exact hfront
      · rintro ⟨front, bad, back, styles', htags, hfront, hbad⟩
        cases front with
        | nil =>
            obtain ⟨rfl, rfl⟩ := List.cons.inj htags
            obtain rfl : styles = styles' := Option.some.inj hfront
            rw [hbad]
            rfl
        | cons first front =>
            obtain ⟨rfl, rfl⟩ := List.cons.inj htags
            rw [stylesAfter?, List.foldlM_cons] at hfront
            cases hafter : afterTag? body styles with
            | none =>
                rw [hafter] at hfront
                exact nomatch hfront
            | some next =>
                rw [hafter] at hfront
                exact ih.2 ⟨front, bad, back, styles', rfl, hfront, hbad⟩

/-- Showing a text fails if and only if a tag in it ends nothing. -/
theorem strip?_eq_none_iff {s : String} : strip? s = none ↔ EndsNothing s := by
  rw [strip?_eq, Option.map_eq_none_iff, stylesAfter?_eq_none_iff]
  simp only [afterTag?_eq_none_iff]
  constructor
  · rintro ⟨front, body, back, styles, htags, hfront, name, hname, hclosed⟩
    exact ⟨front, body, name, back, styles, htags, hfront, hname, hclosed⟩
  · rintro ⟨front, body, name, back, styles, htags, hfront, hname, hclosed⟩
    exact ⟨front, body, back, styles, htags, hfront, name, hname, hclosed⟩

/-! ## Plain texts -/

/-- A text in which no tag and no bracket after a backslash stands: none of its brackets has a
    character to begin a tag behind it and a closing bracket before the next opening one. -/
structure IsPlain (cs : List Char) : Prop where
  no_escape : ∀ front rest, cs ≠ front ++ '\\' :: '[' :: rest
  no_tag : ∀ front c body rest, cs = front ++ '[' :: c :: (body ++ ']' :: rest) →
    opensTag c = true → '[' ∈ body

/-- A piece that shows as itself. -/
def Piece.IsPlain : Piece → Prop
  | .char _ => True
  | .bracket n => n = 0
  | .tag _ _ => False

/-- A tag stands at the beginning if the bracket behind the first character closes, be it the next
    bracket or one after further closing ones. -/
theorem tagBody?_ne_none_iff {cs : List Char} :
    tagBody? cs ≠ none ↔
      ∃ c body rest, cs = c :: (body ++ ']' :: rest) ∧ opensTag c = true ∧ '[' ∉ body := by
  rw [← Option.isSome_iff_ne_none]
  constructor
  · intro h
    obtain ⟨⟨body, rest⟩, h⟩ := Option.isSome_iff_exists.1 h
    obtain ⟨rfl, hbody, hhead⟩ := tagBody?_eq_some_iff.1 h
    cases body with
    | nil => simp at hhead
    | cons c body =>
        refine ⟨c, body, rest, rfl, by simpa using hhead, ?_⟩
        intro hmem
        exact absurd (hbody '[' (List.mem_cons_of_mem _ hmem)) (by decide)
  · rintro ⟨c, body, rest, rfl, hc, hbody⟩
    rw [tagBody?_isSome_iff]
    refine ⟨by simpa using hc, ?_⟩
    rw [List.find?_cons_of_neg (by simp [isBracket_of_opensTag hc])]
    induction body with
    | nil => rfl
    | cons d body ih =>
        have hd : d ≠ '[' := fun h => hbody (h ▸ List.mem_cons_self)
        by_cases hclose : d = ']'
        · subst hclose
          rfl
        · rw [List.cons_append, List.find?_cons_of_neg (by simp [isBracket, hd, hclose])]
          exact ih fun h => hbody (List.mem_cons_of_mem _ h)

/-- The empty text is plain. -/
theorem isPlain_nil : IsPlain [] where
  no_escape := by simp
  no_tag := by simp

/-- A text is plain by its first character and what comes after it. -/
theorem isPlain_cons_iff {c : Char} {cs : List Char} :
    IsPlain (c :: cs) ↔
      IsPlain cs ∧ (c = '\\' → cs.head? ≠ some '[') ∧ (c = '[' → tagBody? cs = none) := by
  constructor
  · intro h
    refine ⟨⟨?_, ?_⟩, ?_, ?_⟩
    · rintro front rest rfl
      exact h.no_escape (c :: front) rest rfl
    · rintro front d body rest rfl hd
      exact h.no_tag (c :: front) d body rest rfl hd
    · rintro rfl hhead
      obtain ⟨rest, rfl⟩ := List.head?_eq_some_iff.1 hhead
      exact h.no_escape [] rest rfl
    · rintro rfl
      by_contra hne
      obtain ⟨d, body, rest, rfl, hd, hbody⟩ := tagBody?_ne_none_iff.1 hne
      exact hbody (h.no_tag [] d body rest rfl hd)
  · rintro ⟨hcs, hescape, htag⟩
    refine ⟨?_, ?_⟩
    · intro front rest heq
      cases front with
      | nil =>
          obtain ⟨rfl, rfl⟩ := List.cons.inj heq
          exact hescape rfl rfl
      | cons d front =>
          obtain ⟨rfl, rfl⟩ := List.cons.inj heq
          exact hcs.no_escape front rest rfl
    · intro front d body rest heq hd
      cases front with
      | nil =>
          obtain ⟨rfl, rfl⟩ := List.cons.inj heq
          by_contra hbody
          exact tagBody?_ne_none_iff.2 ⟨d, body, rest, rfl, hd, hbody⟩ (htag rfl)
      | cons e front =>
          obtain ⟨rfl, rfl⟩ := List.cons.inj heq
          exact hcs.no_tag front d body rest rfl hd

instance IsPlain.instDecidable : (cs : List Char) → Decidable (IsPlain cs)
  | [] => isTrue isPlain_nil
  | _ :: cs =>
    have := IsPlain.instDecidable cs
    decidable_of_iff' _ isPlain_cons_iff

/-- Backslashes before a text leave it plain, unless a bracket comes after them. -/
theorem isPlain_backslashes_iff {n : Nat} {cs : List Char} :
    IsPlain (backslashes n ++ cs) ↔ IsPlain cs ∧ (n ≠ 0 → cs.head? ≠ some '[') := by
  induction n with
  | zero => simp [backslashes]
  | succ n ih =>
      rw [backslashes, List.replicate_succ, List.cons_append, isPlain_cons_iff, ← backslashes, ih]
      cases n with
      | zero => simp [backslashes]
      | succ n => simp [backslashes, List.replicate_succ]

/-- A text is plain if and only if its pieces show as themselves. -/
theorem isPlain_iff_pieces {n : Nat} {cs : List Char} :
    IsPlain (backslashes n ++ cs) ↔ ∀ p ∈ piecesAfter n cs, p.IsPlain := by
  induction n, cs using pieces_induction with
  | nil n =>
      rw [isPlain_backslashes_iff]
      simp [isPlain_nil, Piece.IsPlain]
  | slash n cs ih =>
      rw [piecesAfter_slash, ← ih, backslashes, backslashes, List.replicate_succ',
        List.append_assoc]
      rfl
  | tag n cs body rest h ih =>
      rw [isPlain_backslashes_iff, isPlain_cons_iff, piecesAfter_tag h]
      simp [h, Piece.IsPlain]
  | bracket n cs h ih =>
      have ih' : IsPlain cs ↔ ∀ p ∈ piecesAfter 0 cs, p.IsPlain := ih
      rw [isPlain_backslashes_iff, isPlain_cons_iff, piecesAfter_bracket h,
        List.forall_mem_cons, ← ih']
      simp [h, Piece.IsPlain, and_comm]
  | char n c cs hslash hbracket ih =>
      have ih' : IsPlain cs ↔ ∀ p ∈ piecesAfter 0 cs, p.IsPlain := ih
      rw [isPlain_backslashes_iff, isPlain_cons_iff, piecesAfter_char hslash hbracket,
        List.forall_mem_append, List.forall_mem_cons, ← ih']
      simp [hslash, hbracket, Piece.IsPlain]

private theorem Piece.shown_eq_text {p : Piece} (h : p.IsPlain) : p.shown = p.text := by
  cases p with
  | char c => rfl
  | bracket n =>
      obtain rfl : n = 0 := h
      rfl
  | tag n body => exact h.elim

/-- A piece that does not show as itself shows less than it is. -/
theorem Piece.length_shown_lt {p : Piece} (h : ¬ p.IsPlain) :
    p.shown.length < p.text.length := by
  cases p with
  | char c => exact absurd trivial h
  | bracket n =>
      have hn : n ≠ 0 := h
      simp only [Piece.shown, Piece.text, backslashes, List.length_append, List.length_replicate,
        List.length_singleton]
      omega
  | tag n body =>
      by_cases hodd : n % 2 = 1
      · simp only [Piece.shown, Piece.text, backslashes, hodd, if_true, List.length_append,
          List.length_replicate, List.length_cons]
        omega
      · simp only [Piece.shown, Piece.text, backslashes, hodd, if_false, List.length_append,
          List.length_replicate, List.length_cons]
        omega

/-- Nothing is shown that does not stand in a piece. -/
theorem Piece.shown_sublist (p : Piece) : p.shown.Sublist p.text := by
  have hslashes : ∀ {m n : Nat}, m ≤ n → (backslashes m).Sublist (backslashes n) := by
    intro m n h
    exact (List.replicate_sublist_replicate _).2 h
  cases p with
  | char c => exact List.Sublist.refl _
  | bracket n => exact (hslashes (Nat.sub_le n 1)).append (List.Sublist.refl _)
  | tag n body =>
      by_cases hodd : n % 2 = 1
      · rw [Piece.shown, if_pos hodd, Piece.text, List.append_assoc, List.append_assoc]
        exact (hslashes (Nat.div_le_self n 2)).append (List.Sublist.refl _)
      · rw [Piece.shown, if_neg hodd, Piece.text, List.append_assoc]
        exact (hslashes (Nat.div_le_self n 2)).trans (List.sublist_append_left _ _)

private theorem flatMap_shown_sublist (ps : List Piece) :
    (ps.flatMap Piece.shown).Sublist (ps.flatMap Piece.text) := by
  induction ps with
  | nil => exact List.Sublist.refl _
  | cons p ps ih => exact p.shown_sublist.append ih

/-- The plain part of a text is taken from it. -/
theorem plain_sublist (cs : List Char) : (plain cs).Sublist cs := by
  have htext : (pieces cs).flatMap Piece.text = cs := text_piecesAfter 0 cs
  have h := flatMap_shown_sublist (pieces cs)
  rw [htext] at h
  exact h

/-- What some pieces show is what they are if and only if this is so of each of them: where it is
    not, something is missing, and nothing makes up for it. -/
theorem flatMap_shown_eq_iff {ps : List Piece} :
    ps.flatMap Piece.shown = ps.flatMap Piece.text ↔ ∀ p ∈ ps, p.IsPlain := by
  constructor
  · intro h
    induction ps with
    | nil => simp
    | cons p ps ih =>
        -- were the first piece not plain, what is shown would be shorter
        have hlength := congrArg List.length h
        simp only [List.flatMap_cons, List.length_append] at hlength
        have hps := (flatMap_shown_sublist ps).length_le
        have hp : p.IsPlain := by
          by_contra hp
          have hlt := Piece.length_shown_lt hp
          omega
        rw [List.flatMap_cons, List.flatMap_cons, Piece.shown_eq_text hp] at h
        exact List.forall_mem_cons.2 ⟨hp, ih (List.append_cancel_left h)⟩
  · intro h
    exact List.flatMap_congr fun p hp => Piece.shown_eq_text (h p hp)

/-- A text is its own plain part exactly if it is plain. -/
theorem plain_eq_self_iff {cs : List Char} : plain cs = cs ↔ IsPlain cs := by
  have htext : (pieces cs).flatMap Piece.text = cs := text_piecesAfter 0 cs
  have hpieces : IsPlain cs ↔ ∀ p ∈ pieces cs, p.IsPlain := isPlain_iff_pieces (n := 0)
  rw [hpieces, ← flatMap_shown_eq_iff, htext]
  rfl

/-- A plain text has no tags. -/
theorem tags_of_isPlain {cs : List Char} (h : IsPlain cs) : tags cs = [] := by
  have hpieces : ∀ p ∈ pieces cs, p.IsPlain := (isPlain_iff_pieces (n := 0)).1 h
  rw [tags, List.filterMap_eq_nil_iff]
  intro p hp
  have hplain := hpieces p hp
  cases p with
  | char c => rfl
  | bracket n => rfl
  | tag n body => exact hplain.elim

/-- A beginning without an opening bracket and without backslashes leaves a text plain. -/
theorem isPlain_append_iff {lead cs : List Char} (h : ∀ c ∈ lead, c ≠ '[' ∧ c ≠ '\\') :
    IsPlain (lead ++ cs) ↔ IsPlain cs := by
  induction lead with
  | nil => rfl
  | cons c lead ih =>
      obtain ⟨⟨hbracket, hslash⟩, hlead⟩ := List.forall_mem_cons.1 h
      rw [List.cons_append, isPlain_cons_iff, ih hlead]
      simp [hbracket, hslash]

/-! ## Tags of joined texts -/

private theorem filterMap_tag?_replicate (n : Nat) :
    (List.replicate n (Piece.char '\\')).filterMap Piece.tag? = [] := by
  rw [List.filterMap_eq_nil_iff]
  intro p hp
  rw [List.eq_of_mem_replicate hp]
  rfl

/-- The tags of a text, backslashes before it. -/
def tagsAfter (slashes : Nat) (cs : List Char) : List (List Char) :=
  (piecesAfter slashes cs).filterMap Piece.tag?

/-- A character that begins no tag adds none. -/
theorem tagsAfter_char {n : Nat} {c : Char} (hslash : c ≠ '\\') (hbracket : c ≠ '[')
    (cs : List Char) : tagsAfter n (c :: cs) = tags cs := by
  rw [tagsAfter, piecesAfter_char hslash hbracket, List.filterMap_append,
    filterMap_tag?_replicate, List.nil_append, List.filterMap_cons_none rfl]
  rfl

private theorem tagsAfter_bracket {n : Nat} {cs : List Char} (h : tagBody? cs = none) :
    tagsAfter n ('[' :: cs) = tags cs := by
  rw [tagsAfter, piecesAfter_bracket h, List.filterMap_cons_none rfl]
  rfl

private theorem tagsAfter_tag
    {n : Nat} {cs body rest : List Char} (h : tagBody? cs = some (body, rest)) :
    tagsAfter n ('[' :: cs) = if n % 2 = 1 then tags rest else body :: tags rest := by
  rw [tagsAfter, piecesAfter_tag h, List.filterMap_cons]
  by_cases hodd : n % 2 = 1
  · simp only [Piece.tag?, if_pos hodd]
    rfl
  · simp only [Piece.tag?, if_neg hodd]
    rfl

/-- A tag at the beginning of a text comes before all others. -/
theorem tags_tag {body : List Char} (hbody : NoBracket body)
    (hopens : body.head?.any opensTag = true) (cs : List Char) :
    tags ('[' :: (body ++ ']' :: cs)) = body :: tags cs :=
  tagsAfter_tag (tagBody?_eq_some_iff.2 ⟨rfl, hbody, hopens⟩)

/-- Without brackets there are no tags. -/
theorem tagsAfter_eq_nil {n : Nat} {cs : List Char} (h : NoBracket cs) :
    tagsAfter n cs = [] := by
  induction n, cs using pieces_induction with
  | nil n => exact filterMap_tag?_replicate n
  | slash n cs ih => exact ih fun c hc => h c (List.mem_cons_of_mem _ hc)
  | tag n cs body rest _ _ => exact absurd (h '[' List.mem_cons_self) (by decide)
  | bracket n cs _ _ => exact absurd (h '[' List.mem_cons_self) (by decide)
  | char n c cs hslash hbracket ih =>
      rw [tagsAfter_char hslash hbracket]
      exact ih fun d hd => h d (List.mem_cons_of_mem _ hd)

/-- A text without brackets adds no tag to what stands before it, and ends none that is open
    there. -/
theorem tagsAfter_append {n : Nat} {cs ds : List Char} (h : NoBracket ds) :
    tagsAfter n (cs ++ ds) = tagsAfter n cs := by
  induction n, cs using pieces_induction with
  | nil n => rw [List.nil_append, tagsAfter_eq_nil h, tagsAfter_eq_nil noBracket_nil]
  | slash n cs ih => exact ih
  | tag n cs body rest hbody ih =>
      obtain ⟨rfl, hplain, hhead⟩ := tagBody?_eq_some_iff.1 hbody
      have hlonger : tagBody? ((body ++ ']' :: rest) ++ ds) = some (body, rest ++ ds) :=
        tagBody?_eq_some_iff.2 ⟨by simp, hplain, hhead⟩
      have ih' : tags (rest ++ ds) = tags rest := ih
      rw [List.cons_append, tagsAfter_tag hlonger, tagsAfter_tag hbody, ih']
  | bracket n cs hbody ih =>
      have hlonger : tagBody? (cs ++ ds) = none := by
        have hfind : ds.find? isBracket = none := by
          rw [List.find?_eq_none]
          intro d hd
          rw [h d hd]
          exact Bool.false_ne_true
        rw [← Option.not_isSome_iff_eq_none, tagBody?_isSome_iff] at hbody ⊢
        rintro ⟨hhead, hclose⟩
        rw [List.find?_append, hfind, Option.or_none] at hclose
        cases cs with
        | nil => exact nomatch hclose
        | cons c cs => exact hbody ⟨hhead, hclose⟩
      have ih' : tags (cs ++ ds) = tags cs := ih
      rw [List.cons_append, tagsAfter_bracket hlonger, tagsAfter_bracket hbody, ih']
  | char n c cs hslash hbracket ih =>
      have ih' : tags (cs ++ ds) = tags cs := ih
      rw [List.cons_append, tagsAfter_char hslash hbracket, tagsAfter_char hslash hbracket, ih']

private theorem tags_backslashes (n : Nat) (cs : List Char) :
    tags (backslashes n ++ cs) = tagsAfter n cs := by
  rw [tags, pieces_eq, piecesAfter_backslashes, Nat.zero_add]
  rfl

/-! ## Escaped texts -/

private theorem find?_backslashes (n : Nat) (cs : List Char) :
    (backslashes n ++ cs).find? isBracket = cs.find? isBracket := by
  rw [List.find?_append, List.find?_eq_none.2, Option.none_or]
  intro c hc
  rw [List.eq_of_mem_replicate hc]
  decide

/-- Escaping keeps the brackets of a text. -/
theorem find?_escaped (ps : List Piece) :
    (ps.flatMap Piece.escaped).find? isBracket = (ps.flatMap Piece.text).find? isBracket := by
  induction ps with
  | nil => rfl
  | cons p ps ih =>
      cases p with
      | char c =>
          show (c :: ps.flatMap Piece.escaped).find? isBracket
            = (c :: ps.flatMap Piece.text).find? isBracket
          rw [List.find?_cons, List.find?_cons, ih]
      | bracket n =>
          simp only [Piece.escaped, Piece.text, List.flatMap_cons, List.append_assoc,
            find?_backslashes]
          rfl
      | tag n body =>
          simp only [Piece.escaped, Piece.text, List.flatMap_cons, List.append_assoc,
            List.cons_append, find?_backslashes]
          rfl

/-- Escaping puts nothing but backslashes before a text. -/
theorem head?_escaped {ps : List Piece}
    (h : (ps.flatMap Piece.escaped).head?.any opensTag = true) :
    (ps.flatMap Piece.text).head?.any opensTag = true := by
  cases ps with
  | nil => exact h
  | cons p ps =>
      cases p with
      | char c => exact h
      | bracket n =>
          cases n with
          | zero => exact h
          | succ n => exact h
      | tag n body =>
          have hslash : opensTag '\\' = true := h
          exact absurd hslash (by decide)

/-- Escaping leaves no tag in a text: every one that is found in it is made plain. -/
theorem tags_escaped (n : Nat) (cs : List Char) :
    tags ((piecesAfter n cs).flatMap Piece.escaped) = [] := by
  induction n, cs using pieces_induction with
  | nil n =>
      rw [piecesAfter_nil, flatMap_replicate_char _ rfl, ← List.append_nil (backslashes n),
        tags_backslashes, tagsAfter_eq_nil noBracket_nil]
  | slash n cs ih => exact ih
  | tag n cs body rest h ih =>
      obtain ⟨-, hbody, hopens⟩ := tagBody?_eq_some_iff.1 h
      have hagain : tagBody? (body ++ ']' :: (piecesAfter 0 rest).flatMap Piece.escaped)
          = some (body, (piecesAfter 0 rest).flatMap Piece.escaped) :=
        tagBody?_eq_some_iff.2 ⟨rfl, hbody, hopens⟩
      have hodd : (2 * n + 1) % 2 = 1 := by omega
      rw [piecesAfter_tag h, List.flatMap_cons, Piece.escaped, List.append_assoc,
        List.append_assoc, List.cons_append, List.singleton_append, tags_backslashes,
        tagsAfter_tag hagain, if_pos hodd, ih]
  | bracket n cs h ih =>
      have hcs : (piecesAfter 0 cs).flatMap Piece.text = cs := text_piecesAfter 0 cs
      -- the text after the bracket has its first bracket and its first character still, or a
      -- backslash for it, which begins no tag
      have hagain : tagBody? ((piecesAfter 0 cs).flatMap Piece.escaped) = none := by
        rw [← Option.not_isSome_iff_eq_none, tagBody?_isSome_iff] at h ⊢
        rintro ⟨hhead, hclose⟩
        rw [find?_escaped, hcs] at hclose
        have hhead' := head?_escaped hhead
        rw [hcs] at hhead'
        exact h ⟨hhead', hclose⟩
      rw [piecesAfter_bracket h, List.flatMap_cons]
      show tags ((backslashes n ++ ['[']) ++ _) = []
      rw [List.append_assoc, List.singleton_append, tags_backslashes, tagsAfter_bracket hagain, ih]
  | char n c cs hslash hbracket ih =>
      rw [piecesAfter_char hslash hbracket, List.flatMap_append, flatMap_replicate_char _ rfl,
        List.flatMap_cons, tags_backslashes]
      exact (tagsAfter_char hslash hbracket _).trans ih

/-- An escaped text has no tags. -/
theorem tags_escape (s : String) : tags (escape s).toList = [] := by
  have hpieces : tags ((pieces s.toList).flatMap Piece.escaped) = [] := tags_escaped 0 s.toList
  rw [escape, String.toList_ofList]
  split
  · have hslash : NoBracket ['\\'] := by decide
    exact (tagsAfter_append hslash).trans hpieces
  · exact hpieces

end DiffGauge.Text.Markup
