import DiffGauge.Rust.Lexeme
import DiffGauge.Syntax.Attributes

/-!
# Grammars as data

A grammar describes sequences of lexemes: single lexemes, sequences, ordered choices, repetition,
lookahead, and nodes that gather what they match under a kind. `Grammar.run` matches a grammar
against the lexemes of a source and builds the nodes. Comments are no part of a grammar; one that
stands before the first lexeme of a node stands before the node.
-/

namespace DiffGauge.Rust

open Syntax

/-- A description of sequences of lexemes, over rules that are named by `ρ`. -/
inductive Grammar (ρ : Type) where
  /-- A keyword. -/
  | word (text : String)
  /-- A mark. -/
  | mark (text : String)
  /-- A mark, or the front part of a longer one. -/
  | front (text : String)
  /-- Any word but some, as a leaf of a kind. -/
  | name (kind : String) (except : List String)
  /-- One of some words, as a leaf of a kind. -/
  | among (kind : String) (words : List String)
  /-- A lexeme that is neither word nor mark, as a leaf of a kind. -/
  | literal (lexeme : LexemeKind) (kind : String)
  /-- Any lexeme but a bracket. -/
  | loose
  | seq (gs : List (Grammar ρ))
  /-- The first choice that matches. -/
  | alt (gs : List (Grammar ρ))
  | many (g : Grammar ρ)
  | opt (g : Grammar ρ)
  /-- Matches what is matched by the given grammar, and takes nothing. -/
  | next (g : Grammar ρ)
  /-- Matches what is not matched by the given grammar, and takes nothing. -/
  | butNot (g : Grammar ρ)
  /-- No other choice is left if the given grammar does not match. -/
  | must (g : Grammar ρ)
  | rule (r : ρ)
  /-- Gathers what is matched under a node. -/
  | node (kind : String) (g : Grammar ρ)
  /-- Gives a role to what is matched. -/
  | role (role : String) (g : Grammar ρ)
  /-- What is matched, and then any number of tails. Each gathers all before it and itself under
      a node of its kind. -/
  | chain (g : Grammar ρ) (tails : List (String × Grammar ρ))
  /-- What is matched, and then one tail, gathered under a node of its kind. -/
  | close (g : Grammar ρ) (tails : List (String × Grammar ρ))

/-- What became of a match. -/
inductive Match where
  /-- The nodes that were built and the lexemes that follow. -/
  | found (trees : List SyntaxTree) (rest : List Lexeme)
  /-- No match; another choice may be tried. -/
  | absent
  /-- No match, and no other choice. -/
  | stuck

namespace Match

/-- Goes on with what follows a match. -/
def andThen (m : Match) (f : List SyntaxTree → List Lexeme → Match) : Match :=
  match m with
  | found trees rest => f trees rest
  | absent => absent
  | stuck => stuck

/-- Changes the nodes of a match. -/
def mapTrees (f : List SyntaxTree → List SyntaxTree) (m : Match) : Match :=
  m.andThen fun trees rest => found (f trees) rest

end Match

/-- A comment as a leaf. -/
def Comment.leaf (c : Comment) : SyntaxTree :=
  .node
    { kind := if c.isBlock then blockCommentKind else lineCommentKind
      start := c.start
      stop := c.stop }
    []

/-- The node is a comment. -/
def isComment (t : SyntaxTree) : Bool :=
  t.kind == lineCommentKind || t.kind == blockCommentKind

/-- A lexeme as a leaf of a kind, after its comments. -/
def Lexeme.leaves (l : Lexeme) (kind : String) (isNamed : Bool) : List SyntaxTree :=
  l.comments.map Comment.leaf ++ [.node { kind, start := l.start, stop := l.stop, isNamed } []]

/-- The kind of a leaf for a lexeme among raw tokens. -/
def Lexeme.looseKind (l : Lexeme) : String :=
  match l.kind with
  | .word => "identifier"
  | .number => "integer_literal"
  | .text => "string_literal"
  | .character => "char_literal"
  | .mark => l.text

/-- Some nodes gathered under a node of a kind, without the comments before the first of them. -/
def gather (kind : String) (trees : List SyntaxTree) : List SyntaxTree :=
  let inside := trees.dropWhile isComment
  match inside.head?, inside.getLast? with
  | some first, some last =>
    trees.takeWhile isComment
      ++ [.node { kind, start := first.label.start, stop := last.label.stop } inside]
  | _, _ => trees

/-- The nodes with a role for each that is no comment. -/
def withRole (role : String) (trees : List SyntaxTree) : List SyntaxTree :=
  trees.map fun t =>
    match t with
    | .node l ts => if isComment t then t else .node { l with role := some role } ts

/-- Takes one lexeme that passes a test. -/
def takeOne (input : List Lexeme) (p : Lexeme → Bool) (leaves : Lexeme → List SyntaxTree) :
    Match :=
  match input with
  | l :: rest => if p l then .found (leaves l) rest else .absent
  | [] => .absent

/-- The front of a mark and what remains of it. -/
def Lexeme.divide (l : Lexeme) (size : Nat) : Lexeme × Lexeme :=
  ({ l with text := String.ofList (l.text.toList.take size), stop := l.start + size },
   { l with
     text := String.ofList (l.text.toList.drop size)
     start := l.start + size
     comments := [] })

/-- Takes a mark, or the front of a longer one. -/
def takeFront (input : List Lexeme) (text : String) : Match :=
  match input with
  | l :: rest =>
    if l.kind = .mark && Text.hasLead text l.text.toList then
      if l.text = text then .found (l.leaves text false) rest
      else
        let (front, back) := l.divide text.length
        .found (front.leaves text false) (back :: rest)
    else .absent
  | [] => .absent

mutual

/-- Matches a grammar; `fuel` bounds the depth of the match. -/
def Grammar.run {ρ : Type} (rules : ρ → Grammar ρ) :
    Nat → Grammar ρ → List Lexeme → Match
  | 0, _, _ => .stuck
  | fuel + 1, g, input =>
    match g with
    | .word text =>
      takeOne input (fun l => l.kind == .word && l.text == text) (·.leaves text false)
    | .mark text =>
      takeOne input (fun l => l.kind == .mark && l.text == text) (·.leaves text false)
    | .front text => takeFront input text
    | .name kind except =>
      takeOne input (fun l => l.kind == .word && !except.contains l.text) (·.leaves kind true)
    | .among kind words =>
      takeOne input (fun l => l.kind == .word && words.contains l.text) (·.leaves kind true)
    | .literal lexeme kind => takeOne input (fun l => l.kind == lexeme) (·.leaves kind true)
    | .loose =>
      takeOne input (fun l => l.kind != .mark || !brackets.contains l.text)
        fun l => l.leaves l.looseKind (l.kind != .mark)
    | .seq [] => .found [] input
    | .seq (g :: gs) =>
      (Grammar.run rules fuel g input).andThen fun trees rest =>
        (Grammar.run rules fuel (.seq gs) rest).mapTrees (trees ++ ·)
    | .alt [] => .absent
    | .alt (g :: gs) =>
      match Grammar.run rules fuel g input with
      | .absent => Grammar.run rules fuel (.alt gs) input
      | m => m
    | .many g =>
      match Grammar.run rules fuel g input with
      | .absent => .found [] input
      | .stuck => .stuck
      | .found trees rest => (Grammar.run rules fuel (.many g) rest).mapTrees (trees ++ ·)
    | .opt g =>
      match Grammar.run rules fuel g input with
      | .absent => .found [] input
      | m => m
    | .next g => (Grammar.run rules fuel g input).andThen fun _ _ => .found [] input
    | .butNot g =>
      match Grammar.run rules fuel g input with
      | .absent => .found [] input
      | _ => .absent
    | .must g =>
      match Grammar.run rules fuel g input with
      | .absent => .stuck
      | m => m
    | .rule r => Grammar.run rules fuel (rules r) input
    | .node kind g => (Grammar.run rules fuel g input).mapTrees (gather kind)
    | .role r g => (Grammar.run rules fuel g input).mapTrees (withRole r)
    | .close g tails =>
      (Grammar.run rules fuel g input).andThen fun trees rest =>
        Grammar.runTail rules fuel trees rest tails
    | .chain g tails =>
      (Grammar.run rules fuel g input).andThen fun trees rest =>
        Grammar.runTails rules fuel trees rest tails tails

/-- One of some tails after the nodes that were matched. -/
def Grammar.runTail {ρ : Type} (rules : ρ → Grammar ρ) :
    Nat → List SyntaxTree → List Lexeme → List (String × Grammar ρ) → Match
  | 0, _, _, _ => .stuck
  | _ + 1, _, _, [] => .absent
  | fuel + 1, trees, input, (kind, g) :: tails =>
    match Grammar.run rules fuel g input with
    | .absent => Grammar.runTail rules fuel trees input tails
    | m => m.mapTrees fun more => gather kind (trees ++ more)

/-- Any number of tails after the nodes that were matched; the last list holds the tails that
    are still to be tried for the next one. -/
def Grammar.runTails {ρ : Type} (rules : ρ → Grammar ρ) :
    Nat → List SyntaxTree → List Lexeme → List (String × Grammar ρ) →
      List (String × Grammar ρ) → Match
  | 0, _, _, _, _ => .stuck
  | _ + 1, trees, input, _, [] => .found trees input
  | fuel + 1, trees, input, all, (kind, g) :: tails =>
    match Grammar.run rules fuel g input with
    | .absent => Grammar.runTails rules fuel trees input all tails
    | m =>
      m.andThen fun more rest =>
        Grammar.runTails rules fuel (gather kind (trees ++ more)) rest all all

end

end DiffGauge.Rust
