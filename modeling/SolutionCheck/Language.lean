import SolutionCheck.Table
import SolutionCheck.Json.Reader
/-!
Languages and the engines that run them. A catalog holds languages by their identifiers, in order of
first registration; registering an identifier again replaces its language. A program is dispatched by
its language to one of three engines.
-/

namespace SolutionCheck

inductive Family where
  | interpreter
  | relational
  | logic
deriving DecidableEq

structure Language where
  id : String
  name : String
  family : Family
  tabular : Bool
deriving DecidableEq

inductive Engine where
  | interpreter (tabular : Bool)
  | relational
  | logic
deriving DecidableEq

namespace Engine

def label : Engine → String
  | interpreter _ => "interpreter"
  | relational => "relational"
  | logic => "logic"

def programFile : Engine → String
  | interpreter _ => "program.py"
  | relational => "program.sql"
  | logic => "program.dl"

end Engine

namespace Family

def name : Family → String
  | interpreter => "interpreter"
  | relational => "relational"
  | logic => "logic"

/-- The names under which a family may be given, the other names before the family's own. -/
def named : List (String × Family) :=
  [("embedded-interpreter", interpreter), ("interpreter", interpreter), ("relational", relational),
    ("sql", relational), ("datalog", logic), ("logic", logic)]

def read [Json.Numerals] : Json.Reader Family := Json.readVariant named (Json.oneOf (named.map Prod.fst))

end Family

namespace Language

def engine (language : Language) : Engine :=
  match language.family with
  | .interpreter => .interpreter language.tabular
  | .relational => .relational
  | .logic => .logic

def toJson (language : Language) : Json :=
  .object [("id", .string language.id), ("name", .string language.name),
    ("family", .string language.family.name), ("tabular", .bool language.tabular)]

def fields [Json.Numerals] : List (Json.Field Language) :=
  [Json.field "id" true Json.readString fun l id => { l with id },
    Json.field "name" true Json.readString fun l name => { l with name },
    Json.field "family" true Family.read fun l family => { l with family },
    Json.field "tabular" false Json.readBool fun l tabular => { l with tabular }]

def read [Json.Numerals] : Json.Reader Language := Json.readStructure "Language" fields ⟨"", "", .interpreter, false⟩

end Language

structure Catalog where
  byId : Keyed Language
deriving DecidableEq

namespace Catalog

/-- The catalog of some languages, of which a later one replaces an earlier one of its identifier. -/
def ofList (languages : List Language) : Catalog :=
  ⟨.ofList (languages.map fun language => (language.id, language))⟩

def standard : Catalog :=
  ofList [⟨"python-imperative", "Python (Imperative)", .interpreter, false⟩,
    ⟨"python-functional", "Python (Functional)", .interpreter, false⟩,
    ⟨"python-pandas", "Python (Pandas)", .interpreter, true⟩,
    ⟨"sql", "SQL", .relational, false⟩,
    ⟨"datalog", "Datalog", .logic, false⟩]

def get? (catalog : Catalog) (id : String) : Option Language := catalog.byId.get? id

def contains (catalog : Catalog) (id : String) : Bool := catalog.byId.contains id

def languages (catalog : Catalog) : List Language := catalog.byId.values

def size (catalog : Catalog) : Nat := catalog.byId.size

def isEmpty (catalog : Catalog) : Bool := catalog.byId.isEmpty

def engine? (catalog : Catalog) (id : String) : Option Engine := (catalog.get? id).map Language.engine

def parse [Json.Numerals] (text : String) : Except Json.Fault Catalog :=
  (Json.readText (Json.readList Language.read) text).map ofList

def invalidMessage (fault : Json.Fault) : String := "Invalid language catalog JSON: " ++ fault.message

def toTable (catalog : Catalog) : Table :=
  ⟨["id", "name", "family", "tabular"], catalog.languages.map fun language =>
    [.text language.id, .text language.name, .text language.engine.label, .bool language.tabular]⟩

end Catalog

end SolutionCheck
