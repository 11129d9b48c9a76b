/-!
# Blank characters and trimming

Which characters count as blank space, and how a text loses the blanks at its ends.
A text is a list of characters here; `String` wrappers stand at the end.
-/

namespace DiffGauge.Text

/-- The blank characters: the Unicode spaces, the line and paragraph separators and the
    ASCII separators `0x1C`–`0x1F`. -/
def isBlank (c : Char) : Bool :=
  let n := c.toNat
  (9 ≤ n && n ≤ 13) || (28 ≤ n && n ≤ 32) || n == 0x85 || n == 0xA0 || n == 0x1680
    || (0x2000 ≤ n && n ≤ 0x200A) || n == 0x2028 || n == 0x2029 || n == 0x202F
    || n == 0x205F || n == 0x3000

/-- A text without the blanks at its end. -/
def trimRight (cs : List Char) : List Char :=
  (cs.reverse.dropWhile isBlank).reverse

/-- A text without the blanks at either end. -/
def trim (cs : List Char) : List Char :=
  trimRight (cs.dropWhile isBlank)

/-- Nothing but blanks. -/
def allBlank (cs : List Char) : Bool := cs.all isBlank

/-- A string without the blanks at either end. -/
def trimmed (s : String) : String := String.ofList (trim s.toList)

/-- Every run of blanks replaced by `fill`. -/
def squeeze (fill : List Char) : List Char → List Char
  | [] => []
  | c :: cs =>
    if isBlank c then
      match cs with
      | [] => fill
      | d :: _ => if isBlank d then squeeze fill cs else fill ++ squeeze fill cs
    else c :: squeeze fill cs

/-- A string with every run of blanks replaced by `fill`. -/
def squeezed (fill : String) (s : String) : String :=
  String.ofList (squeeze fill.toList s.toList)

end DiffGauge.Text
