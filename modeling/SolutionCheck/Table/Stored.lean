import SolutionCheck.Table
import SolutionCheck.Json.Reader
/-!
Tables and cells in documents. A table is an object with its columns and its rows; reading does not
look at the widths of the rows.
-/

namespace SolutionCheck

def Cell.read [Json.Numerals] : Json.Reader Cell := fun depth d => (Json.readValue depth d).map Cell.ofJson

namespace Table

def toJson (t : Table) : Json :=
  .object [("columns", .ofTexts t.columns),
    ("rows", .array (t.rows.map fun row => .array (row.map Cell.toJson)))]

def fields [Json.Numerals] : List (Json.Field Table) :=
  [Json.field "columns" true (Json.readList Json.readString) fun t columns => { t with columns },
    Json.field "rows" true (Json.readList (Json.readList Cell.read)) fun t rows => { t with rows }]

def read [Json.Numerals] : Json.Reader Table := Json.readStructure "Relation" fields ⟨[], []⟩

end Table

def recordJson (record : Record) : Json := .ofKeyed Cell.toJson record

def readRecord [Json.Numerals] : Json.Reader Record := Json.readKeyed Cell.read

end SolutionCheck
