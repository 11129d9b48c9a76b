import DiffGauge.Text.Pieces

/-!
# Markup

Texts for the terminal may hold tags in brackets that set a style, `[bold]`, and end one,
`[/bold]` or `[/]`. Here a text is stripped of its tags. A backslash before a tag makes it plain
text, two stand for one backslash. A tag that ends a style which is not set is a fault. This is how
the standard console reads; a report is written for any console that reads tags.
-/

namespace DiffGauge.Text.Markup

/-- A stretch of a text: a character, or what could be a tag, with the backslashes that stand
    before it. -/
inductive Piece where
  | char (c : Char)
  | bracket (slashes : Nat)
  | tag (slashes : Nat) (body : List Char)
  deriving DecidableEq, Repr

/-- A character that a tag can begin with. -/
def opensTag (c : Char) : Bool := ('a' ≤ c && c ≤ 'z') || c == '#' || c == '/' || c == '@'

/-- A tag after its opening bracket: its body, and what follows its closing bracket. -/
def tagBody? (cs : List Char) : Option (List Char × List Char) :=
  match cs with
  | c :: _ =>
    if opensTag c then
      match cs.span fun d => d != '[' && d != ']' with
      | (body, ']' :: rest) => some (body, rest)
      | _ => none
    else none
  | [] => none

/-- The pieces of a text before which `slashes` backslashes stand; `fuel` bounds its length. -/
def piecesFrom : Nat → Nat → List Char → List Piece
  | 0, _, _ => []
  | _ + 1, slashes, [] => List.replicate slashes (.char '\\')
  | fuel + 1, slashes, c :: cs =>
    if c = '\\' then piecesFrom fuel (slashes + 1) cs
    else if c = '[' then
      match tagBody? cs with
      | some (body, rest) => .tag slashes body :: piecesFrom fuel 0 rest
      | none => .bracket slashes :: piecesFrom fuel 0 cs
    else List.replicate slashes (.char '\\') ++ .char c :: piecesFrom fuel 0 cs

/-- The pieces of a text. -/
def pieces (cs : List Char) : List Piece := piecesFrom (cs.length + 1) 0 cs

/-! ## Escaping -/

/-- So many backslashes. -/
def backslashes (n : Nat) : List Char := List.replicate n '\\'

/-- A piece as it stands in a text. -/
def Piece.text : Piece → List Char
  | .char c => [c]
  | .bracket n => backslashes n ++ ['[']
  | .tag n body => backslashes n ++ '[' :: body ++ [']']

/-- A piece so that it is no tag. -/
def Piece.escaped : Piece → List Char
  | .tag n body => backslashes (2 * n + 1) ++ '[' :: body ++ [']']
  | p => p.text

/-- A text that ends with a single backslash. -/
def endsOpen (cs : List Char) : Bool := hasTail "\\" cs && !hasTail "\\\\" cs

/-- A text with every tag made plain. A single backslash at the end is doubled. -/
def escape (s : String) : String :=
  let cs := (pieces s.toList).flatMap Piece.escaped
  String.ofList (if endsOpen cs then cs ++ ['\\'] else cs)

/-! ## Stripping -/

/-- The attributes of a style, with the short names that they have. -/
def attributes : List (String × List String) :=
  [("bold", ["b"]), ("dim", ["d"]), ("italic", ["i"]), ("underline", ["u"]), ("blink", []),
   ("blink2", []), ("reverse", ["r"]), ("conceal", ["c"]), ("strike", ["s"]),
   ("underline2", ["uu"]), ("frame", []), ("encircle", []), ("overline", ["o"])]

/-- The full name of an attribute. -/
def attribute? (word : String) : Option String :=
  (attributes.find? fun a => a.1 == word || a.2.contains word).map (·.1)

/-- The words of a text. -/
def words (cs : List Char) : List String :=
  (cs.splitBy fun a b => isBlank a == isBlank b).filterMap fun w =>
    if w.any isBlank then none else some (String.ofList w)

/-- The name by which a style is known. Attributes have one order and one name each. -/
def styleName (cs : List Char) : String :=
  let name := asciiLower (String.ofList (trim cs))
  match (words name.toList).mapM attribute? with
  | some [] => name
  | some named => joined " " ((attributes.map (·.1)).filter named.contains)
  | none => name

/-- The name of a tag, which ends before an equals sign. -/
def tagName (body : List Char) : List Char := body.takeWhile (· != '=')

/-- The styles that are set after one of them ended: the last one, or the last one of a name. -/
def closed? (name : List Char) (styles : List String) : Option (List String) :=
  if trim name = [] then
    match styles with
    | _ :: styles => some styles
    | [] => none
  else
    let style := styleName name
    if styles.contains style then some (styles.erase style) else none

/-- The styles that are set after a tag. -/
def afterTag? (body : List Char) (styles : List String) : Option (List String) :=
  match tagName body with
  | '/' :: name => closed? name styles
  | name => some (styleName name :: styles)

/-- The plain text of some pieces; `styles` are set, the last one first. -/
def strippedFrom (styles : List String) : List Piece → Option (List Char)
  | [] => some []
  | .char c :: ps => (strippedFrom styles ps).map (c :: ·)
  | .bracket n :: ps => (strippedFrom styles ps).map (backslashes (n - 1) ++ '[' :: ·)
  | .tag n body :: ps =>
    if n % 2 = 1 then
      (strippedFrom styles ps).map (backslashes (n / 2) ++ '[' :: body ++ ']' :: ·)
    else
      (afterTag? body styles).bind fun styles =>
        (strippedFrom styles ps).map (backslashes (n / 2) ++ ·)

/-- A control character that is never shown. -/
def isDropped (c : Char) : Bool :=
  c == '\x07' || c == '\x08' || c == '\x0b' || c == '\x0c' || c == '\r'

/-- The plain text of a marked-up text, unless a tag in it ends nothing. -/
def strip? (s : String) : Option String :=
  (strippedFrom [] (pieces s.toList)).map fun cs => String.ofList (cs.filter (!isDropped ·))

end DiffGauge.Text.Markup
