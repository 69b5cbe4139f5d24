import ForeignCall.Text

/-!
# Lines

A text ends its lines with a line feed, or a carriage return and a line feed; the last line may go
without. A carriage return not followed by a line feed belongs to its line.
-/

namespace ForeignCall.Text

def dropReturn : Text → Text
  | [] => []
  | [c] => if c = '\r' then [] else [c]
  | c :: d :: rest => c :: dropReturn (d :: rest)

/-- Turns the pieces between line feeds into lines: all but the last were ended by a line feed, and
an empty last piece is no line. -/
def closeLines : List Text → List Text
  | [] => []
  | [last] => if last = [] then [] else [last]
  | piece :: next :: rest => dropReturn piece :: closeLines (next :: rest)

/-- The lines of a text, without their ends. -/
def lines (t : Text) : List Text := closeLines (splitAll '\n' t)

end ForeignCall.Text
