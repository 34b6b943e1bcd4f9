/-!
Lines of a text. A line ends with a line feed, before which one carriage return is dropped too;
what follows the last line feed is a line only when it is not empty, and then keeps its end as it is.
-/

namespace SolutionCheck.Text

def dropFinal (c : Char) (cs : List Char) : List Char :=
  if cs.getLast? = some c then cs.dropLast else cs

/-- Turn the pieces between line feeds into lines: every piece but the last was ended by one. -/
def endLines : List (List Char) → List (List Char)
  | [] => []
  | [last] => if last.isEmpty then [] else [last]
  | piece :: rest => dropFinal '\r' piece :: endLines rest

def lines (cs : List Char) : List (List Char) := endLines (cs.splitOn '\n')

def linesOf (s : String) : List String := (lines s.toList).map String.ofList

end SolutionCheck.Text
