/-!
# Line breaks

A line may end in a carriage return, a line feed, or both. Texts that come from outside are read
with a line feed for each of them.
-/

namespace DiffGauge.Text

/-- A text with a line feed for every line break. -/
def unifyBreaks : List Char → List Char
  | '\r' :: '\n' :: cs => '\n' :: unifyBreaks cs
  | '\r' :: cs => '\n' :: unifyBreaks cs
  | c :: cs => c :: unifyBreaks cs
  | [] => []

end DiffGauge.Text
