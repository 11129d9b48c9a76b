import DiffGauge.Proofs.Syntax.Spread
import DiffGauge.Rust.Reader

/-!
# Trees of Rust sources are spread out

The lexemes of a source stand one after the other, each after its comments and with room for its
text. A match of a grammar builds its nodes from lexemes that it takes from the front, so the nodes
stand one after the other as well, and before the lexemes that follow.

* `StandFrom` says how lexemes stand and `lexemesFrom_stand` that those of a source do;
* `run_spread` is the invariant of a match, whatever the grammar;
* `parse_spread` says that the trees of all sources are spread out.
-/

namespace DiffGauge.Rust

open Syntax

/-- The lexemes stand one after the other from an offset on, each after its comments and with room
    for its text, and then the trailing comments. -/
def StandFrom (trailing : List Comment) (start : Nat) : List Lexeme → Prop
  | [] => ∃ stop, SpreadBetween start stop (trailing.map Comment.leaf)
  | l :: ls =>
    SpreadBetween start l.start (l.comments.map Comment.leaf) ∧
      l.start + l.text.length ≤ l.stop ∧ StandFrom trailing l.stop ls

/-! ## The lexemes of a source -/

private theorem length_le_byteLength (cs : List Char) : cs.length ≤ byteLength cs := by
  suffices h : ∀ n, n + cs.length ≤ cs.foldl (fun n c => n + c.utf8Size) n by
    simpa [byteLength] using h 0
  induction cs with
  | nil => exact fun n => Nat.le_refl n
  | cons c cs ih =>
      intro n
      have hsize := c.utf8Size_pos
      have hcs := ih (n + c.utf8Size)
      rw [List.foldl_cons, List.length_cons]
      omega

/-- The comments since the last lexeme, with one more. -/
theorem spread_comment {start : Nat} {c : Comment} {comments : List Comment}
    (h : SpreadBetween start c.start (comments.reverse.map Comment.leaf)) (hc : c.start ≤ c.stop) :
    SpreadBetween start c.stop ((c :: comments).reverse.map Comment.leaf) := by
  rw [List.reverse_cons, List.map_append]
  exact h.append ⟨Nat.le_refl _, SyntaxTree.spread_leaf hc, Nat.le_refl _⟩

/-- The lexemes of a text stand one after the other, with the comments between them. -/
theorem lexemesFrom_stand {fuel start offset : Nat} {afterPoint : Bool} {comments : List Comment}
    {cs : List Char} {lexemes : Lexemes}
    (hcomments : SpreadBetween start offset (comments.reverse.map Comment.leaf))
    (h : lexemesFrom fuel offset afterPoint comments cs = some lexemes) :
    StandFrom lexemes.trailing start lexemes.lexemes := by
  fun_induction lexemesFrom fuel offset afterPoint comments cs generalizing start lexemes
  case case1 => cases h
  case case2 =>
      cases h
      exact ⟨_, hcomments⟩
  case case3 fuel offset afterPoint comments cs body rest hbody stop ih =>
      have hstop : offset ≤ offset + 2 + byteLength body := by omega
      exact ih (spread_comment (c := ⟨false, offset, _⟩) hcomments hstop) h
  case case4 fuel offset afterPoint comments cs ih =>
      obtain ⟨⟨body, rest⟩, -, h⟩ := Option.bind_eq_some_iff.1 h
      have hstop : offset ≤ offset + 2 + byteLength body := by omega
      exact ih body rest (spread_comment (c := ⟨true, offset, _⟩) hcomments hstop) h
  case case5 fuel offset afterPoint comments c cs _ _ hspace ih =>
      refine ih ?_ h
      rw [← List.append_nil (comments.reverse.map Comment.leaf)]
      exact hcomments.append (Nat.le_add_right _ _)
  case case6 fuel offset afterPoint comments c cs _ _ hspace ih =>
      obtain ⟨⟨kind, text, rest⟩, -, h⟩ := Option.bind_eq_some_iff.1 h
      obtain ⟨more, hmore, h⟩ := Option.bind_eq_some_iff.1 h
      cases h
      refine ⟨hcomments, ?_, ih kind text rest (Nat.le_refl _) hmore⟩
      show offset + (String.ofList text).length ≤ offset + byteLength text
      rw [String.length_ofList]
      exact Nat.add_le_add_left (length_le_byteLength text) offset

/-! ## Nodes of lexemes -/

private theorem leaves_spread
    {start : Nat} {l : Lexeme} {stop : Nat} {kind : String} {isNamed : Bool}
    (hcomments : SpreadBetween start l.start (l.comments.map Comment.leaf))
    (hroom : l.start ≤ l.stop) (hstop : l.stop ≤ stop) :
    SpreadBetween start stop (l.leaves kind isNamed) :=
  hcomments.append ⟨Nat.le_refl _, SyntaxTree.spread_leaf hroom, hstop⟩

private theorem gather_spread {start stop : Nat} {kind : String} {trees : List SyntaxTree}
    (h : SpreadBetween start stop trees) : SpreadBetween start stop (gather kind trees) := by
  rw [← List.takeWhile_append_dropWhile (p := isComment) (l := trees)] at h
  obtain ⟨middle, hbefore, hinside⟩ := spreadBetween_append.1 h
  rw [gather]
  split
  · next first last hfirst hlast =>
    obtain ⟨hbegin, hnode, hend⟩ := hinside.narrow hfirst hlast
    exact hbefore.append ⟨hbegin, hnode, hend⟩
  · rw [List.takeWhile_append_dropWhile] at h
    exact h

private theorem withRole_spread {start stop : Nat} {role : String} {trees : List SyntaxTree}
    (h : SpreadBetween start stop trees) : SpreadBetween start stop (withRole role trees) := by
  induction trees generalizing start with
  | nil => exact h
  | cons t trees ih =>
      obtain ⟨l, ts⟩ := t
      obtain ⟨hbegin, hnode, hrest⟩ := h
      show SpreadBetween start stop ((if isComment (.node l ts) = true then .node l ts
        else .node { l with role := some role } ts) :: withRole role trees)
      split
      · exact ⟨hbegin, hnode, ih hrest⟩
      · exact ⟨hbegin, hnode, ih hrest⟩

/-! ## Matches -/

/-- The nodes of a match stand one after the other from an offset on, and the lexemes that follow
    stand after them. -/
def Match.SpreadFrom (trailing : List Comment) (start : Nat) : Match → Prop
  | .found trees rest => ∃ stop, SpreadBetween start stop trees ∧ StandFrom trailing stop rest
  | .absent => True
  | .stuck => True

variable {trailing : List Comment} {start : Nat}

/-- What is matched next stands after what is matched first. -/
theorem Match.SpreadFrom.andThen {m : Match} {f : List SyntaxTree → List Lexeme → Match}
    (h : m.SpreadFrom trailing start)
    (hf : ∀ trees rest stop, SpreadBetween start stop trees → StandFrom trailing stop rest →
      (f trees rest).SpreadFrom trailing start) :
    (m.andThen f).SpreadFrom trailing start := by
  cases m with
  | found trees rest =>
      obtain ⟨stop, htrees, hrest⟩ := h
      exact hf trees rest stop htrees hrest
  | absent => trivial
  | stuck => trivial

/-- A change to the trees that leaves them where they stand. -/
theorem Match.SpreadFrom.mapTrees {m : Match} {f : List SyntaxTree → List SyntaxTree}
    {middle : Nat} (h : m.SpreadFrom trailing middle)
    (hf : ∀ trees stop, SpreadBetween middle stop trees → SpreadBetween start stop (f trees)) :
    (m.mapTrees f).SpreadFrom trailing start := by
  cases m with
  | found trees rest =>
      obtain ⟨stop, htrees, hrest⟩ := h
      exact ⟨stop, hf trees stop htrees, hrest⟩
  | absent => trivial
  | stuck => trivial

private theorem takeOne_spread {input : List Lexeme} {p : Lexeme → Bool} {kind : Lexeme → String}
    {isNamed : Lexeme → Bool} (h : StandFrom trailing start input) :
    (takeOne input p fun l => l.leaves (kind l) (isNamed l)).SpreadFrom trailing start := by
  cases input with
  | nil => trivial
  | cons l rest =>
      obtain ⟨hcomments, hroom, hrest⟩ := h
      rw [takeOne]
      split
      · exact ⟨l.stop, leaves_spread hcomments (Nat.le_of_add_right_le hroom) (Nat.le_refl _),
          hrest⟩
      · trivial

private theorem takeFront_spread {input : List Lexeme} {text : String}
    (h : StandFrom trailing start input) :
    (takeFront input text).SpreadFrom trailing start := by
  cases input with
  | nil => trivial
  | cons l rest =>
      obtain ⟨hcomments, hroom, hrest⟩ := h
      rw [takeFront]
      split
      · next hmark =>
        split
        · exact ⟨l.stop, leaves_spread hcomments (Nat.le_of_add_right_le hroom) (Nat.le_refl _),
            hrest⟩
        · -- the front has room in the lexeme, and the back has what remains
          obtain ⟨back, hback⟩ := Option.isSome_iff_exists.1 (Bool.and_eq_true_iff.1 hmark).2
          have htext := congrArg List.length (Text.after?_eq_some_iff.1 hback)
          rw [List.length_append, String.length_toList, String.length_toList] at htext
          have hremains : l.start + text.length
              + (String.ofList (l.text.toList.drop text.length)).length ≤ l.stop := by
            rw [String.length_ofList, List.length_drop, String.length_toList]
            omega
          exact ⟨l.start + text.length,
            leaves_spread hcomments (Nat.le_add_right _ _) (Nat.le_refl _), Nat.le_refl _,
            hremains, hrest⟩
      · trivial

section Run

variable {ρ : Type} (rules : ρ → Grammar ρ)

mutual

/-- A match builds nodes that stand one after the other, whatever the grammar. -/
theorem run_spread {start : Nat} : (fuel : Nat) → (g : Grammar ρ) → (input : List Lexeme) →
    StandFrom trailing start input →
    (Grammar.run rules fuel g input).SpreadFrom trailing start
  | 0, _, _, _ => by
      rw [Grammar.run]
      trivial
  | fuel + 1, g, input, h => by
      cases g with
      | word text => exact takeOne_spread h
      | mark text => exact takeOne_spread h
      | front text => exact takeFront_spread h
      | name kind except => exact takeOne_spread h
      | among kind words => exact takeOne_spread h
      | literal lexeme kind => exact takeOne_spread h
      | loose => exact takeOne_spread h
      | seq gs =>
          cases gs with
          | nil => exact ⟨start, Nat.le_refl _, h⟩
          | cons g gs =>
              rw [Grammar.run]
              refine (run_spread fuel g input h).andThen fun trees rest stop htrees hrest => ?_
              exact (run_spread fuel (.seq gs) rest hrest).mapTrees fun more _ => htrees.append
      | alt gs =>
          cases gs with
          | nil => trivial
          | cons g gs =>
              have hfirst := run_spread fuel g input h
              have hothers := run_spread fuel (.alt gs) input h
              rw [Grammar.run]
              generalize Grammar.run rules fuel g input = m at hfirst
              cases m with
              | found trees rest => exact hfirst
              | absent => exact hothers
              | stuck => trivial
      | many g =>
          have hone := run_spread fuel g input h
          rw [Grammar.run]
          generalize Grammar.run rules fuel g input = m at hone
          cases m with
          | found trees rest =>
              obtain ⟨stop, htrees, hrest⟩ := hone
              exact (run_spread fuel (.many g) rest hrest).mapTrees fun more _ => htrees.append
          | absent => exact ⟨start, Nat.le_refl _, h⟩
          | stuck => trivial
      | opt g =>
          have hone := run_spread fuel g input h
          rw [Grammar.run]
          generalize Grammar.run rules fuel g input = m at hone
          cases m with
          | found trees rest => exact hone
          | absent => exact ⟨start, Nat.le_refl _, h⟩
          | stuck => trivial
      | next g =>
          rw [Grammar.run]
          refine (run_spread fuel g input h).andThen fun trees rest stop htrees hrest => ?_
          exact ⟨start, Nat.le_refl _, h⟩
      | butNot g =>
          rw [Grammar.run]
          split
          · exact ⟨start, Nat.le_refl _, h⟩
          · trivial
      | must g =>
          have hone := run_spread fuel g input h
          rw [Grammar.run]
          generalize Grammar.run rules fuel g input = m at hone
          cases m with
          | found trees rest => exact hone
          | absent => trivial
          | stuck => trivial
      | rule r =>
          rw [Grammar.run]
          exact run_spread fuel (rules r) input h
      | node kind g =>
          rw [Grammar.run]
          exact (run_spread fuel g input h).mapTrees fun trees _ => gather_spread
      | role r g =>
          rw [Grammar.run]
          exact (run_spread fuel g input h).mapTrees fun trees _ => withRole_spread
      | chain g tails =>
          rw [Grammar.run]
          refine (run_spread fuel g input h).andThen fun trees rest stop htrees hrest => ?_
          exact runTails_spread fuel trees rest tails tails htrees hrest
      | close g tails =>
          rw [Grammar.run]
          refine (run_spread fuel g input h).andThen fun trees rest stop htrees hrest => ?_
          exact runTail_spread fuel trees rest tails htrees hrest
termination_by structural fuel => fuel

/-- One tail after the nodes that were matched. -/
theorem runTail_spread {start middle : Nat} : (fuel : Nat) → (trees : List SyntaxTree) →
    (input : List Lexeme) → (tails : List (String × Grammar ρ)) →
    SpreadBetween start middle trees → StandFrom trailing middle input →
    (Grammar.runTail rules fuel trees input tails).SpreadFrom trailing start
  | 0, _, _, _, _, _ => by
      rw [Grammar.runTail]
      trivial
  | _ + 1, _, _, [], _, _ => by
      rw [Grammar.runTail]
      trivial
  | fuel + 1, trees, input, (kind, g) :: tails, htrees, h => by
      have hone := run_spread fuel g input h
      rw [Grammar.runTail]
      generalize Grammar.run rules fuel g input = m at hone
      cases m with
      | found more rest => exact hone.mapTrees fun _ _ hmore => gather_spread (htrees.append hmore)
      | absent => exact runTail_spread fuel trees input tails htrees h
      | stuck => trivial
termination_by structural fuel => fuel

/-- Any number of tails after the nodes that were matched. -/
theorem runTails_spread {start middle : Nat} : (fuel : Nat) → (trees : List SyntaxTree) →
    (input : List Lexeme) → (all tails : List (String × Grammar ρ)) →
    SpreadBetween start middle trees → StandFrom trailing middle input →
    (Grammar.runTails rules fuel trees input all tails).SpreadFrom trailing start
  | 0, _, _, _, _, _, _ => by
      rw [Grammar.runTails]
      trivial
  | _ + 1, trees, input, _, [], htrees, h => by
      rw [Grammar.runTails]
      exact ⟨middle, htrees, h⟩
  | fuel + 1, trees, input, all, (kind, g) :: tails, htrees, h => by
      have hone := run_spread fuel g input h
      rw [Grammar.runTails]
      generalize Grammar.run rules fuel g input = m at hone
      cases m with
      | found more rest =>
          obtain ⟨stop, hmore, hrest⟩ := hone
          exact runTails_spread fuel _ rest all all (gather_spread (htrees.append hmore)) hrest
      | absent => exact runTails_spread fuel trees input all tails htrees h
      | stuck => trivial
termination_by structural fuel => fuel

end

end Run

/-! ## The tree of a source -/

private theorem lexemes_stand
    {cs : List Char} {lexemes : Lexemes} (h : Lexemes.read? cs = some lexemes) :
    ∃ start, StandFrom lexemes.trailing start lexemes.lexemes :=
  ⟨_, lexemesFrom_stand (Nat.le_refl _) h⟩

/-- The tree of a Rust source is spread out. -/
theorem read?_spread {text : String} {root : SyntaxTree} (h : read? text = some root) :
    root.Spread := by
  obtain ⟨lexemes, hlexemes, h⟩ := Option.bind_eq_some_iff.1 h
  obtain ⟨start, hstand⟩ := lexemes_stand hlexemes
  have hmatch := run_spread G.of (depthFor lexemes.lexemes.length) (.rule .file) _ hstand
  generalize Grammar.run G.of _ _ lexemes.lexemes = m at h hmatch
  cases m with
  | absent => cases h
  | stuck => cases h
  | found trees rest =>
      obtain ⟨stop, htrees, hrest⟩ := hmatch
      cases rest with
      | cons l rest => cases h
      | nil =>
          obtain ⟨finish, htrailing⟩ := hrest
          have hall := htrees.append htrailing
          cases h
          show SpreadBetween _ _ (trees ++ lexemes.trailing.map Comment.leaf)
          generalize trees ++ lexemes.trailing.map Comment.leaf = ts at hall
          cases ts with
          | nil => exact Nat.le_refl 0
          | cons t ts =>
              have hlast := List.getLast?_cons (a := t) (l := ts)
              rw [hlast]
              exact (hall.narrow rfl hlast).2.1

/-- The trees of Rust sources are spread out. -/
theorem parse_spread : ParsesSpread parse := by
  intro text root h
  rw [parse] at h
  cases hread : read? text with
  | none =>
      rw [hread] at h
      cases h
  | some root' =>
      rw [hread] at h
      cases h
      exact read?_spread hread

end DiffGauge.Rust
