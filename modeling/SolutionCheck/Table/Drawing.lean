import SolutionCheck.Table
import SolutionCheck.Text.Blank
/-!
Tables drawn as text: the names of the columns, a rule, the rows and the number of rows, each on a
line of its own. A column is as wide as its longest text; bars stand between columns, and no line but
the rule ends in blanks.
-/

namespace SolutionCheck.Table

def padEnd (width : Nat) (cs : List Char) : List Char := cs ++ List.replicate (width - cs.length) ' '

def texts (t : Table) : List (List (List Char)) :=
  t.rows.map fun row => row.map fun cell => cell.display.toList

def columnWidth (texts : List (List (List Char))) (index : Nat) (name : String) : Nat :=
  texts.foldl (fun width row => max width (row.getD index []).length) name.toList.length

def widths (t : Table) : List Nat := t.columns.mapIdx (columnWidth t.texts)

def drawLine (widths : List Nat) (texts : List (List Char)) : List Char :=
  Text.trimEnd ([' ', '|', ' '].intercalate (List.zipWith padEnd widths texts))

def drawRule (widths : List Nat) : List Char :=
  ['-', '+', '-'].intercalate (widths.map fun width => List.replicate width '-')

def drawing (t : Table) : List (List Char) :=
  drawLine t.widths (t.columns.map String.toList) :: drawRule t.widths ::
    t.texts.map (drawLine t.widths) ++ [("(" ++ natText t.size ++ " rows)").toList]

/-- The drawing as one text, without a line break at the end. -/
def draw (t : Table) : String := String.ofList (['\n'].intercalate t.drawing)

end SolutionCheck.Table
