/-!
Lines of a text. A line ends with a line feed, a carriage return, or both.
-/

namespace Einsum.Text

/-- Every kind of line end becomes a line feed. -/
def plainLines : List Char → List Char
  | '\r' :: '\n' :: cs => '\n' :: plainLines cs
  | '\r' :: cs => '\n' :: plainLines cs
  | c :: cs => c :: plainLines cs
  | [] => []

end Einsum.Text
