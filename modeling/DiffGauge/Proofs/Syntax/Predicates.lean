import DiffGauge.Proofs.Text.Utf8
import DiffGauge.Syntax.Attributes
import Mathlib.Data.List.DropRight
import Mathlib.Data.List.TakeWhile

/-!
# Predicates written as tokens

A predicate is written as an identifier, as an identifier with an equals sign and a text in quotes,
or as an operator with its arguments: a tree of tokens between brackets, with a comma between two
arguments and perhaps one after the last. `Source.Writes` says which nodes write a predicate.

Neither a comma nor a bracket of an argument stands beside the commas and brackets around it: they
are below the node of its own tree. So dividing the tokens at the commas gives the arguments back.

* `predicateOf_tokens` reads the tokens of a predicate back, at any depth;
* `canStand_writes` says that every predicate without quotes at the ends of its values can be
  written;
* `configuration_read_back` takes both to attributes.
-/

namespace DiffGauge.Syntax

open Text

/-! ## Writing a predicate -/

/-- The node is an identifier. -/
structure Source.IsIdentifier (s : Source) (name : String) (t : SyntaxTree) : Prop where
  kind : t.kind = "identifier"
  isNamed : t.label.isNamed = true
  text : s.text t = name

/-- The node is a piece of punctuation. -/
structure Source.IsMark (s : Source) (mark : String) (t : SyntaxTree) : Prop where
  kind : t.kind = mark
  isNamed : t.label.isNamed = false
  text : s.text t = mark

/-- A text between double quotes. -/
def inQuotes (value : String) : String := "\"" ++ value ++ "\""

/-- The node is a text in quotes. -/
structure Source.IsLiteral (s : Source) (value : String) (t : SyntaxTree) : Prop where
  kind : t.kind = "string_literal"
  isNamed : t.label.isNamed = true
  text : s.text t = inQuotes value

/-- The node is a tree of tokens. -/
structure IsTokenTree (t : SyntaxTree) : Prop where
  kind : t.kind = tokenTreeKind
  isNamed : t.label.isNamed = true

/-- Nothing, or a comma. -/
def Source.IsTail (s : Source) (tail : List SyntaxTree) : Prop :=
  tail = [] ∨ ∃ comma, s.IsMark "," comma ∧ tail = [comma]

/-- No quote stands at either end of the value. -/
def isBetweenQuotes (value : String) : Bool :=
  value.toList.head? != some '"' && value.toList.getLast? != some '"'

mutual

/-- The nodes write the predicate. -/
inductive Source.Writes (s : Source) : CfgPredicate → List SyntaxTree → Prop
  | option {name : String} {t : SyntaxTree} :
      s.IsIdentifier name t → Source.Writes s (.option name none) [t]
  | valued {name value : String} {t equals literal : SyntaxTree} :
      s.IsIdentifier name t → s.IsMark "=" equals → s.IsLiteral value literal →
      isBetweenQuotes value = true →
      Source.Writes s (.option name (some value)) [t, equals, literal]
  | operated {name : String} {args : List CfgPredicate} {p : CfgPredicate} {t tree : SyntaxTree} :
      operator? name args = some p → s.IsIdentifier name t → IsTokenTree tree →
      Source.Encloses s args tree.children → Source.Writes s p [t, tree]

/-- The nodes write the predicates, with a comma between two of them. -/
inductive Source.WritesEach (s : Source) : List CfgPredicate → List SyntaxTree → Prop
  | none : Source.WritesEach s [] []
  | last {p : CfgPredicate} {ts : List SyntaxTree} :
      Source.Writes s p ts → Source.WritesEach s [p] ts
  | more {p q : CfgPredicate} {ps : List CfgPredicate} {ts us : List SyntaxTree}
      {comma : SyntaxTree} :
      Source.Writes s p ts → s.IsMark "," comma → Source.WritesEach s (q :: ps) us →
      Source.WritesEach s (p :: q :: ps) (ts ++ comma :: us)

/-- The nodes write the predicates between brackets. -/
inductive Source.Encloses (s : Source) : List CfgPredicate → List SyntaxTree → Prop
  | between {ps : List CfgPredicate} {ts tail : List SyntaxTree} {opening closing : SyntaxTree} :
      opening.kind ∈ brackets → closing.kind ∈ brackets → Source.WritesEach s ps ts →
      s.IsTail tail → Source.Encloses s ps (opening :: (ts ++ tail ++ [closing]))

end

/-! ## Dividing at commas -/

/-- The groups between the commas of tokens, without the empty ones. -/
def groupsBetween (ts : List Token) : List (List Token) :=
  (divideAt Token.divides ts).filter fun group => !group.isEmpty

private theorem groupsBetween_append
    {comma : Token} (h : comma.divides = true) (ts us : List Token) :
    groupsBetween (ts ++ comma :: us) = groupsBetween ts ++ groupsBetween us := by
  rw [groupsBetween, divideAt_append h, List.filter_append]
  rfl

/-! ## Reading the tokens -/

section Reading

variable (s : Source)

private theorem Source.token_text (t : SyntaxTree) : (s.token t).text = s.text t := by
  cases t with
  | node l ts =>
      rw [token]
      rfl

private theorem Source.token_kind (t : SyntaxTree) : (s.token t).kind = t.kind := by
  cases t with
  | node l ts =>
      rw [token]
      rfl

private theorem Source.token_isNamed (t : SyntaxTree) : (s.token t).isNamed = t.label.isNamed := by
  cases t with
  | node l ts =>
      rw [token]
      rfl

private theorem Source.token_args (t : SyntaxTree) :
    (s.token t).args = (argumentGroups (s.tokens t.children)).map predicateOf := by
  cases t with
  | node l ts =>
      rw [token]
      rfl

private theorem Source.tokens_append (ts us : List SyntaxTree) :
    s.tokens (ts ++ us) = s.tokens ts ++ s.tokens us := by
  induction ts with
  | nil =>
      rw [tokens]
      rfl
  | cons t ts ih => rw [List.cons_append, tokens, tokens, ih, List.cons_append]

private theorem Token.divides_of_isNamed {t : Token} (h : t.isNamed = true) :
    t.divides = false := by
  rw [divides, h]
  rfl

/-- The token is no bracket and no comma. -/
structure Token.IsPart (t : Token) : Prop where
  divides : t.divides = false
  kind : t.kind ∉ brackets

/-- A mark divides exactly if it is a comma. -/
theorem Source.IsMark.divides {s : Source} {mark : String} {t : SyntaxTree}
    (h : s.IsMark mark t) : (s.token t).divides = holdsString "," mark := by
  rw [Token.divides, token_isNamed, token_text, h.isNamed, h.text]
  rfl

private theorem Source.isPart_of_isNamed {t : SyntaxTree} (hnamed : t.label.isNamed = true)
    (hkind : t.kind ∉ brackets) : (s.token t).IsPart := by
  refine ⟨Token.divides_of_isNamed ?_, ?_⟩
  · rw [token_isNamed, hnamed]
  · rw [token_kind]
    exact hkind

private theorem Source.IsIdentifier.isPart {s : Source} {name : String} {t : SyntaxTree}
    (h : s.IsIdentifier name t) : (s.token t).IsPart :=
  s.isPart_of_isNamed h.isNamed (by rw [h.kind]; decide)

private theorem Source.IsLiteral.isPart {s : Source} {value : String} {t : SyntaxTree}
    (h : s.IsLiteral value t) : (s.token t).IsPart :=
  s.isPart_of_isNamed h.isNamed (by rw [h.kind]; decide)

private theorem IsTokenTree.isPart {t : SyntaxTree} (h : IsTokenTree t) : (s.token t).IsPart :=
  s.isPart_of_isNamed h.isNamed (by rw [h.kind]; decide)

private theorem Source.IsMark.isPart_equals {s : Source} {t : SyntaxTree} (h : s.IsMark "=" t) :
    (s.token t).IsPart := by
  refine ⟨?_, ?_⟩
  · rw [h.divides]
    decide
  · rw [token_kind, h.kind]
    decide

private theorem Source.IsMark.divides_comma {s : Source} {t : SyntaxTree} (h : s.IsMark "," t) :
    (s.token t).divides = true := by
  rw [h.divides]
  decide

private theorem Source.IsMark.comma_not_bracket {s : Source} {t : SyntaxTree} (h : s.IsMark "," t) :
    (s.token t).kind ∉ brackets := by
  rw [token_kind, h.kind]
  decide

/-- What writes a predicate is not empty and has no comma and no bracket of its own. -/
theorem Source.Writes.isPart {s : Source} {p : CfgPredicate} {ts : List SyntaxTree}
    (h : s.Writes p ts) : s.tokens ts ≠ [] ∧ ∀ t ∈ s.tokens ts, t.IsPart := by
  cases h with
  | option hname =>
      simp only [tokens, List.forall_mem_cons]
      exact ⟨List.cons_ne_nil _ _, hname.isPart, fun _ h => nomatch h⟩
  | valued hname hequals hliteral _ =>
      simp only [tokens, List.forall_mem_cons]
      exact ⟨List.cons_ne_nil _ _, hname.isPart, hequals.isPart_equals, hliteral.isPart,
        fun _ h => nomatch h⟩
  | operated _ hname htree _ =>
      simp only [tokens, List.forall_mem_cons]
      exact ⟨List.cons_ne_nil _ _, hname.isPart, htree.isPart s, fun _ h => nomatch h⟩

/-- What writes a predicate makes one group. -/
theorem Source.Writes.groupsBetween_eq {s : Source} {p : CfgPredicate} {ts : List SyntaxTree}
    (h : s.Writes p ts) : groupsBetween (s.tokens ts) = [s.tokens ts] := by
  obtain ⟨hne, hpart⟩ := h.isPart
  rw [groupsBetween, divideAt_of_none fun t ht => (hpart t ht).divides]
  refine List.filter_cons_of_pos ?_
  rw [List.isEmpty_eq_false_iff.2 hne]
  rfl

/-- No bracket stands beside the arguments. -/
theorem Source.WritesEach.not_bracket {s : Source} {ps : List CfgPredicate}
    {ts : List SyntaxTree} : s.WritesEach ps ts → ∀ t ∈ s.tokens ts, t.kind ∉ brackets
  | .none, t, ht => by
      rw [tokens] at ht
      cases ht
  | .last h, t, ht => (h.isPart.2 t ht).kind
  | .more h hcomma hmore, t, ht => by
      rw [tokens_append, List.mem_append, tokens, List.mem_cons] at ht
      rcases ht with ht | rfl | ht
      · exact (h.isPart.2 t ht).kind
      · exact hcomma.comma_not_bracket
      · exact hmore.not_bracket t ht

/-- A comma after the last argument makes no group. -/
theorem Source.IsTail.groupsBetween_eq {s : Source} {tail : List SyntaxTree} (h : s.IsTail tail)
    (ts : List SyntaxTree) :
    groupsBetween (s.tokens (ts ++ tail)) = groupsBetween (s.tokens ts) := by
  rcases h with rfl | ⟨comma, hcomma, rfl⟩
  · rw [List.append_nil]
  · rw [s.tokens_append, tokens, tokens, groupsBetween_append hcomma.divides_comma]
    exact List.append_nil _

private theorem Source.IsTail.not_bracket
    {s : Source} {tail : List SyntaxTree} (h : s.IsTail tail) :
    ∀ t ∈ s.tokens tail, t.kind ∉ brackets := by
  rcases h with rfl | ⟨comma, hcomma, rfl⟩
  · rw [tokens]
    exact fun _ h => nomatch h
  · rw [tokens, tokens]
    exact List.forall_mem_singleton.2 hcomma.comma_not_bracket

/-- Only the brackets at the ends are left out. -/
theorem Source.argumentGroups_of_brackets {opening closing : SyntaxTree} {ts : List SyntaxTree}
    (hopening : opening.kind ∈ brackets) (hclosing : closing.kind ∈ brackets)
    (hts : ∀ t ∈ s.tokens ts, t.kind ∉ brackets) :
    argumentGroups (s.tokens (opening :: (ts ++ [closing]))) = groupsBetween (s.tokens ts) := by
  have hdropped : ∀ {t : SyntaxTree}, t.kind ∈ brackets →
      (!brackets.contains (s.token t).kind) = false := by
    intro t ht
    rw [s.token_kind, List.contains_iff_mem.2 ht]
    rfl
  have hkept : (s.tokens ts).filter (fun t => !brackets.contains t.kind) = s.tokens ts := by
    refine List.filter_eq_self.2 fun t ht => ?_
    rw [Bool.not_eq_true', ← Bool.not_eq_true, List.contains_iff_mem]
    exact hts t ht
  have hinner : (s.tokens (opening :: (ts ++ [closing]))).filter
      (fun t => !brackets.contains t.kind) = s.tokens ts := by
    rw [tokens, s.tokens_append, List.filter_cons, hdropped hopening, List.filter_append, hkept,
      tokens, List.filter_cons, hdropped hclosing, tokens]
    exact List.append_nil _
  rw [argumentGroups, hinner]
  rfl

/-- The quotes around a value go, and nothing else. -/
theorem withoutQuotes_inQuotes {value : String} (h : isBetweenQuotes value = true) :
    withoutQuotes (inQuotes value) = value := by
  rw [isBetweenQuotes, Bool.and_eq_true, bne_iff_ne, bne_iff_ne] at h
  have hlist : (inQuotes value).toList = '"' :: (value.toList ++ ['"']) := by
    simp [inQuotes]
  have hlast : (value.toList).rdropWhile (· == '"') = value.toList := by
    refine List.rdropWhile_eq_self_iff.2 fun hne hquote => h.2 ?_
    rw [List.getLast?_eq_some_getLast hne, eq_of_beq hquote]
  have hback : (value.toList ++ ['"']).rdropWhile (· == '"') = value.toList := by
    rw [List.rdropWhile_concat, if_pos (beq_self_eq_true _), hlast]
  rw [withoutQuotes, hlist, List.dropWhile_cons, if_pos (beq_self_eq_true _)]
  cases hvalue : value.toList with
  | nil =>
      -- the closing quote is at the front of what is left
      have hempty : value = "" := String.toList_eq_nil_iff.1 hvalue
      rw [hempty]
      rfl
  | cons c cs =>
      have hc : ¬(c == '"') = true := by
        rw [beq_iff_eq]
        intro hc
        rw [hvalue, List.head?_cons, hc] at h
        exact h.1 rfl
      rw [hvalue] at hback
      rw [List.cons_append, List.dropWhile_cons, if_neg hc, ← List.cons_append]
      show String.ofList ((c :: cs ++ ['"']).rdropWhile (· == '"')) = value
      rw [hback, ← hvalue, String.ofList_toList]

-- a quote at an end of a value is taken for one around it
example : withoutQuotes (inQuotes "a\"") = "a" := by decide

private theorem Source.IsIdentifier.predicateOf_eq {s : Source} {name : String} {t : SyntaxTree}
    (h : s.IsIdentifier name t) : predicateOf (s.tokens [t]) = .option name none := by
  rw [tokens, tokens, predicateOf, s.token_text, h.text]

private theorem Source.IsIdentifier.predicateOf_value {s : Source} {name value : String}
    {t equals literal : SyntaxTree} (h : s.IsIdentifier name t) (hequals : s.IsMark "=" equals)
    (hliteral : s.IsLiteral value literal) (hvalue : isBetweenQuotes value = true) :
    predicateOf (s.tokens [t, equals, literal]) = .option name (some value) := by
  have hkind : (s.token equals).kind ≠ tokenTreeKind := by
    rw [s.token_kind, hequals.kind]
    decide
  have hequals : (s.token equals).text = "=" := (s.token_text _).trans hequals.text
  simp only [tokens, predicateOf, if_neg hkind, Option.getD_none, valued, if_pos hequals]
  rw [s.token_text, s.token_text, h.text, hliteral.text, withoutQuotes_inQuotes hvalue]

private theorem Source.IsIdentifier.predicateOf_operator {s : Source} {name : String}
    {args : List CfgPredicate} {p : CfgPredicate} {t tree : SyntaxTree}
    (h : s.IsIdentifier name t) (htree : IsTokenTree tree)
    (hargs : (argumentGroups (s.tokens tree.children)).map predicateOf = args)
    (hoperator : operator? name args = some p) : predicateOf (s.tokens [t, tree]) = p := by
  have hkind : (s.token tree).kind = tokenTreeKind := (s.token_kind _).trans htree.kind
  have hname : (s.token t).text = name := (s.token_text _).trans h.text
  simp only [tokens, predicateOf, if_pos hkind]
  rw [s.token_args, hargs, hname, hoperator, Option.getD_some]

mutual

/-- **Reading undoes writing**: the tokens of a predicate are read as the predicate. -/
theorem predicateOf_tokens {s : Source} {p : CfgPredicate} {ts : List SyntaxTree} :
    s.Writes p ts → predicateOf (s.tokens ts) = p
  | .option hname => hname.predicateOf_eq
  | .valued hname hequals hliteral hvalue => hname.predicateOf_value hequals hliteral hvalue
  | .operated hoperator hname htree henclosed =>
      hname.predicateOf_operator htree (map_predicateOf_argumentGroups henclosed) hoperator

/-- Tokens with commas between them are read as the arguments. -/
theorem map_predicateOf_groupsBetween {s : Source} {ps : List CfgPredicate}
    {ts : List SyntaxTree} :
    s.WritesEach ps ts → (groupsBetween (s.tokens ts)).map predicateOf = ps
  | .none => by
      rw [Source.tokens]
      rfl
  | .last h => by
      rw [h.groupsBetween_eq, List.map_singleton, predicateOf_tokens h]
  | .more h hcomma hmore => by
      rw [s.tokens_append, Source.tokens, groupsBetween_append hcomma.divides_comma,
        h.groupsBetween_eq, List.map_append, List.map_singleton, predicateOf_tokens h,
        map_predicateOf_groupsBetween hmore]
      rfl

/-- Tokens between brackets are read as the arguments. -/
theorem map_predicateOf_argumentGroups {s : Source} {ps : List CfgPredicate}
    {ts : List SyntaxTree} :
    s.Encloses ps ts → (argumentGroups (s.tokens ts)).map predicateOf = ps
  | .between hopening hclosing heach htail => by
      rw [s.argumentGroups_of_brackets hopening hclosing, htail.groupsBetween_eq,
        map_predicateOf_groupsBetween heach]
      rw [s.tokens_append]
      exact List.forall_mem_append.2 ⟨heach.not_bracket, htail.not_bracket⟩

end

end Reading

/-! ## Attributes -/

/-- The path is that of a configuration attribute. -/
def IsConfigurationPath (path : String) : Prop := path = "cfg" ∨ ∃ front, path = front ++ "::cfg"

/-- The node is an attribute that asks for a predicate. -/
structure Source.AsksFor (s : Source) (p : CfgPredicate) (t : SyntaxTree) : Prop where
  kind : t.kind = "attribute"
  isNamed : t.label.isNamed = true
  parts : ∃ path arguments, t.children = [path, arguments] ∧ path.label.isNamed = true ∧
    path.label.role = none ∧ IsConfigurationPath (squeezed "" (s.text path)) ∧
    arguments.label.role = some "arguments" ∧ s.Encloses [p] arguments.children

/-- The node is an item with an attribute that asks for a predicate. What stands before the
    attribute is punctuation. -/
def Source.IsConfiguration (s : Source) (p : CfgPredicate) (item : SyntaxTree) : Prop :=
  ∃ marks t after, item.children = marks ++ t :: after ∧
    (∀ mark ∈ marks, mark.label.isNamed = false) ∧ s.AsksFor p t

private theorem exists_suffixes_append (front back : List Char) :
    ∃ longer, suffixes (front ++ back) = longer ++ suffixes back := by
  induction front with
  | nil => exact ⟨[], rfl⟩
  | cons c front ih =>
      obtain ⟨longer, hlonger⟩ := ih
      refine ⟨(c :: (front ++ back)) :: longer, ?_⟩
      rw [List.cons_append, suffixes, hlonger, List.cons_append]

/-- The last segment of such a path is `cfg`. -/
theorem IsConfigurationPath.lastSegment {path : String} (h : IsConfigurationPath path) :
    String.ofList (lastPathSegment path.toList) = "cfg" := by
  rcases h with rfl | ⟨front, rfl⟩
  · rfl
  · obtain ⟨longer, hlonger⟩ := exists_suffixes_append front.toList "::cfg".toList
    have hback : ((suffixes "::cfg".toList).filterMap (after? [':', ':'])).getLast?
        = some "cfg".toList := rfl
    rw [lastPathSegment, String.toList_append, hlonger, List.filterMap_append,
      List.getLast?_append, hback]
    rfl

/-- A predicate between brackets is read as the predicate of a configuration. -/
theorem configuration_eq {s : Source} {p : CfgPredicate} {arguments : SyntaxTree}
    (h : s.Encloses [p] arguments.children) : s.configuration arguments = p := by
  obtain ⟨group, hgroups, hp⟩ := List.map_eq_singleton_iff.1 (map_predicateOf_argumentGroups h)
  rw [Source.configuration, hgroups]
  exact hp

private theorem Source.AsksFor.attribute?_eq {s : Source} {p : CfgPredicate} {t : SyntaxTree}
    (h : s.AsksFor p t) {marks after : List SyntaxTree} {item : SyntaxTree}
    (hitem : item.children = marks ++ t :: after)
    (hmarks : ∀ mark ∈ marks, mark.label.isNamed = false) :
    ∃ a, s.attribute? item = some a ∧ a.cfg = some p := by
  obtain ⟨path, arguments, hchildren, hnamed, hrole, hpath, harguments, hencloses⟩ := h.parts
  have hfirst : (SyntaxTree.namedOnly item.children).find? (·.kind == "attribute") = some t := by
    have hnone : marks.filter (·.label.isNamed) = [] :=
      List.filter_eq_nil_iff.2 fun mark hmark => by
        rw [hmarks mark hmark]
        exact Bool.false_ne_true
    rw [SyntaxTree.namedOnly, hitem, List.filter_append, hnone, List.filter_cons, if_pos h.isNamed]
    exact List.find?_cons_of_pos (beq_iff_eq.2 h.kind)
  have hhead : (SyntaxTree.namedOnly t.children).head? = some path := by
    rw [SyntaxTree.namedOnly, hchildren, List.filter_cons, if_pos hnamed]
    rfl
  have hchild : SyntaxTree.child? "arguments" t.children = some arguments := by
    rw [SyntaxTree.child?, hchildren, List.find?_cons, hrole, List.find?_cons, harguments]
    rfl
  rw [attribute?, hfirst]
  simp only [Option.bind_eq_bind, Option.bind_some, hhead, hchild, if_pos hpath.lastSegment]
  exact ⟨_, rfl, congrArg some (configuration_eq hencloses)⟩

/-! ## Every predicate can be written -/

mutual

/-- No value of the predicate has a quote at an end, and nothing in it is unknown. -/
def isWritable : CfgPredicate → Bool
  | .option _ none => true
  | .option _ (some value) => isBetweenQuotes value
  | .all args => areWritable args
  | .any args => areWritable args
  | .not args => areWritable args
  | .unknown _ => false

/-- The same of each of some predicates. -/
def areWritable : List CfgPredicate → Bool
  | [] => true
  | p :: ps => isWritable p && areWritable ps

end

/-- The bytes stand in the source at an offset. -/
def Source.HasAt (s : Source) (offset : Nat) (bs : List UInt8) : Prop :=
  bs <+: s.bytes.drop offset

/-- Bytes that stand somewhere begin with their front. -/
theorem Source.HasAt.front {s : Source} {offset : Nat} {as bs : List UInt8}
    (h : s.HasAt offset (as ++ bs)) : s.HasAt offset as := (List.prefix_append as bs).trans h

/-- What comes after the front stands after it. -/
theorem Source.HasAt.back {s : Source} {offset : Nat} {as bs : List UInt8}
    (h : s.HasAt offset (as ++ bs)) : s.HasAt (offset + as.length) bs := by
  obtain ⟨rest, hrest⟩ := h
  refine ⟨rest, ?_⟩
  rw [← List.drop_drop, ← hrest, List.append_assoc, List.drop_left]

/-- The place after a text. -/
def behind (offset : Nat) (text : String) : Nat := offset + (Utf8.encodeString text).length

/-- A node without children, for a text at an offset. -/
def leaf (kind : String) (isNamed : Bool) (offset : Nat) (text : String) : SyntaxTree :=
  .node { kind, start := offset, stop := behind offset text, isNamed } []

/-- A tree of tokens. -/
def tokenTree (start stop : Nat) (role : Option String) (ts : List SyntaxTree) : SyntaxTree :=
  .node { kind := tokenTreeKind, start, stop, role } ts

private theorem Source.text_leaf {s : Source} {kind text : String} {isNamed : Bool} {offset : Nat}
    (h : s.HasAt offset (Utf8.encodeString text)) :
    s.text (leaf kind isNamed offset text) = text := by
  have hslice : s.slice offset (behind offset text) = Utf8.encodeString text := by
    rw [slice, behind, Nat.add_sub_cancel_left]
    exact (List.prefix_iff_eq_take.1 h).symm
  show Utf8.decodeString (s.slice offset (behind offset text)) = text
  rw [hslice, Utf8.decodeString, Utf8.encodeString, Utf8.decode_encode, String.ofList_toList]

private theorem Source.isIdentifier_leaf {s : Source} {name : String} {offset : Nat}
    (h : s.HasAt offset (Utf8.encodeString name)) :
    s.IsIdentifier name (leaf "identifier" true offset name) := ⟨rfl, rfl, text_leaf h⟩

private theorem Source.isMark_leaf {s : Source} {mark : String} {offset : Nat}
    (h : s.HasAt offset (Utf8.encodeString mark)) :
    s.IsMark mark (leaf mark false offset mark) := ⟨rfl, rfl, text_leaf h⟩

private theorem Source.isLiteral_leaf {s : Source} {value : String} {offset : Nat}
    (h : s.HasAt offset (Utf8.encodeString (inQuotes value))) :
    s.IsLiteral value (leaf "string_literal" true offset (inQuotes value)) :=
  ⟨rfl, rfl, text_leaf h⟩

/-- There are bytes and nodes that write something wherever the bytes stand. -/
def CanStand (writes : Source → List SyntaxTree → Prop) : Prop :=
  ∀ offset, ∃ bs ts, ∀ s : Source, s.HasAt offset bs → writes s ts

/-- Predicates that can be written can be written between brackets. -/
theorem CanStand.encloses {ps : List CfgPredicate} (h : CanStand (·.WritesEach ps)) :
    CanStand (·.Encloses ps) := by
  intro offset
  obtain ⟨bs, ts, hts⟩ := h (behind offset "(")
  refine ⟨Utf8.encodeString "(" ++ bs ++ Utf8.encodeString ")",
    leaf "(" false offset "(" :: (ts ++ [] ++ [leaf ")" false (behind offset "(") ")"]),
    fun s hs => ?_⟩
  have hopening : "(" ∈ brackets := by decide
  have hclosing : ")" ∈ brackets := by decide
  exact .between hopening hclosing (hts s hs.front.back) (.inl rfl)

/-- An operator can be written if its arguments can. -/
theorem CanStand.operated {name : String} {args : List CfgPredicate} {p : CfgPredicate}
    (hoperator : operator? name args = some p) (h : CanStand (·.WritesEach args)) :
    CanStand (·.Writes p) := by
  intro offset
  obtain ⟨bs, ts, hts⟩ := h.encloses (behind offset name)
  refine ⟨Utf8.encodeString name ++ bs, [leaf "identifier" true offset name,
    tokenTree (behind offset name) (behind offset name + bs.length) none ts], fun s hs => ?_⟩
  exact .operated hoperator (Source.isIdentifier_leaf hs.front) ⟨rfl, rfl⟩ (hts s hs.back)

mutual

/-- A writable predicate can be written. -/
theorem canStand_writes : (p : CfgPredicate) → isWritable p = true → CanStand (·.Writes p)
  | .option name none, _ => fun offset =>
      ⟨_, _, fun _ hs => .option (Source.isIdentifier_leaf hs)⟩
  | .option name (some value), h => by
      intro offset
      refine ⟨Utf8.encodeString name ++ Utf8.encodeString "=" ++ Utf8.encodeString (inQuotes value),
        [leaf "identifier" true offset name, leaf "=" false (behind offset name) "=",
          leaf "string_literal" true
            (offset + (Utf8.encodeString name ++ Utf8.encodeString "=").length) (inQuotes value)],
        fun s hs => ?_⟩
      exact .valued (Source.isIdentifier_leaf hs.front.front) (Source.isMark_leaf hs.front.back)
        (Source.isLiteral_leaf hs.back) h
  | .all args, h =>
      .operated (rfl : operator? "all" args = _) (canStand_writesEach args h)
  | .any args, h =>
      .operated (rfl : operator? "any" args = _) (canStand_writesEach args h)
  | .not args, h =>
      .operated (rfl : operator? "not" args = _) (canStand_writesEach args h)

/-- Writable predicates can be written with commas between them. -/
theorem canStand_writesEach : (ps : List CfgPredicate) → areWritable ps = true →
    CanStand (·.WritesEach ps)
  | [], _ => fun _ => ⟨[], [], fun _ _ => .none⟩
  | [p], h => by
      intro offset
      rw [areWritable, Bool.and_eq_true] at h
      obtain ⟨bs, ts, hts⟩ := canStand_writes p h.1 offset
      exact ⟨bs, ts, fun s hs => .last (hts s hs)⟩
  | p :: q :: ps, h => by
      intro offset
      rw [areWritable, Bool.and_eq_true] at h
      obtain ⟨bs, ts, hts⟩ := canStand_writes p h.1 offset
      obtain ⟨bs', ts', hts'⟩ :=
        canStand_writesEach (q :: ps) h.2 (offset + (bs ++ Utf8.encodeString ",").length)
      refine ⟨bs ++ Utf8.encodeString "," ++ bs',
        ts ++ leaf "," false (offset + bs.length) "," :: ts', fun s hs => ?_⟩
      exact .more (hts s hs.front.front) (Source.isMark_leaf hs.front.back) (hts' s hs.back)

end

/-- A writable predicate can be written as the argument of an attribute. -/
theorem exists_isConfiguration {p : CfgPredicate} (h : isWritable p = true) :
    ∃ s item, Source.IsConfiguration s p item := by
  have hsingle : CanStand (·.WritesEach [p]) :=
    canStand_writesEach [p] (by rw [areWritable, h]; rfl)
  obtain ⟨bs, ts, hts⟩ := hsingle.encloses (behind 0 "cfg")
  let s : Source := ⟨Utf8.encodeString "cfg" ++ bs⟩
  have hs : s.HasAt 0 (Utf8.encodeString "cfg" ++ bs) := List.prefix_refl _
  let path := leaf "identifier" true 0 "cfg"
  let arguments := tokenTree (behind 0 "cfg") (behind 0 "cfg" + bs.length) (some "arguments") ts
  let node : SyntaxTree :=
    .node { kind := "attribute", start := 0, stop := s.bytes.length } [path, arguments]
  have hpath : IsConfigurationPath (squeezed "" (s.text path)) := by
    rw [Source.text_leaf hs.front]
    exact .inl rfl
  have hasks : s.AsksFor p node :=
    ⟨rfl, rfl, path, arguments, rfl, rfl, rfl, hpath, rfl, hts s hs.back⟩
  refine ⟨s, .node { kind := outerAttributeKind, start := 0, stop := s.bytes.length } [node],
    [], node, [], rfl, ?_, hasks⟩
  exact fun _ h => nomatch h

/-- **Reading an attribute loses nothing**: a predicate whose values have no quotes at their ends
    can be written, and however it is written, its tokens are read as the predicate, and so is an
    attribute that asks for it. -/
theorem configuration_read_back (p : CfgPredicate) (hp : isWritable p = true) :
    (∃ s item, Source.IsConfiguration s p item) ∧
      ∀ s : Source, (∀ ts, s.Writes p ts → predicateOf (s.tokens ts) = p) ∧
        ∀ item, s.IsConfiguration p item → ∃ a, s.attribute? item = some a ∧ a.cfg = some p := by
  refine ⟨exists_isConfiguration hp, fun s => ⟨fun ts => predicateOf_tokens, ?_⟩⟩
  rintro item ⟨marks, t, after, hitem, hmarks, hasks⟩
  exact hasks.attribute?_eq hitem hmarks

/-- `all(any, not(), feature = "a,b", any(all(), test = ""))`. -/
def nestedPredicate : CfgPredicate :=
  .all [.option "any" none, .not [], .option "feature" (some "a,b"),
    .any [.all [], .option "test" (some "")]]

/-- A predicate with the name of an operator as an option, and with a comma in a value. -/
theorem configuration_read_back_of_nestedPredicate :
    isWritable nestedPredicate = true ∧
      (∃ s item, Source.IsConfiguration s nestedPredicate item) ∧
      ∀ s : Source,
        (∀ ts, s.Writes nestedPredicate ts → predicateOf (s.tokens ts) = nestedPredicate) ∧
        ∀ item, s.IsConfiguration nestedPredicate item →
          ∃ a, s.attribute? item = some a ∧ a.cfg = some nestedPredicate := by
  have hp : isWritable nestedPredicate = true := by decide
  exact ⟨hp, configuration_read_back nestedPredicate hp⟩

end DiffGauge.Syntax
