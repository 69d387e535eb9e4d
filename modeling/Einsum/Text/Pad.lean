/-!
Texts filled up with spaces to a width, and without them at the end.
-/

namespace Einsum.Text

def padLeft (width : Nat) (s : String) : String := "".pushn ' ' (width - s.length) ++ s

def padRight (width : Nat) (s : String) : String := s.pushn ' ' (width - s.length)

def trimEnd (s : String) : String := String.ofList ((s.toList.reverse.dropWhile (· == ' ')).reverse)

end Einsum.Text
