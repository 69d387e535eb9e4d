/-!
Places in the text of subscripts, and in the file that holds it.
-/

namespace Einsum

/-- Columns of a text, counted from one, `stop` excluded. The file and the line tell where the text
itself stands, if that is known. -/
structure Span where
  start : Int
  stop : Int
  file : Option String := none
  line : Option Int := none
deriving DecidableEq, Repr

namespace Span

def ofOffset (offset length : Nat) : Span := ⟨offset + 1, offset + 1 + length, none, none⟩

def whole (text : String) : Span := ofOffset 0 text.length

def atSite (s : Span) (file : Option String) (line : Option Int) : Span :=
  ⟨s.start, s.stop, file, line⟩

end Span

/-- The column of a span and, below the text, marks under the columns it covers. -/
def locationText (span : Option Span) (text : Option String) : String :=
  match span with
  | none => ""
  | some s =>
    let column := s!" (col {s.start})"
    match text with
    | none => column
    | some t =>
      if s.start < 1 then column
      else
        let marks := ("".pushn ' ' (s.start - 1).toNat).pushn '^' (max 1 (s.stop - s.start)).toNat
        s!"{column}\n  {t}\n  {marks}"

end Einsum
