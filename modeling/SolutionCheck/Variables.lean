import SolutionCheck.Disk
import SolutionCheck.Keyed
import SolutionCheck.Text.Blank
/-!
Variables of the surroundings, and files that add to them. A line of such a file gives a name and a
value with an equals sign between them. Values may be quoted, may go over several lines in quotes, and
may use the variables known so far. A variable that is known keeps its value, and nothing is read
behind a line that cannot be read.
-/

namespace SolutionCheck

abbrev Variables := Keyed String

namespace Variables

inductive Place where
  | plain
  | blank
  | escaped
  | single (escaped : Bool)
  | double (escaped : Bool)
deriving DecidableEq

def Place.next (c : Char) : Place → Place
  | plain =>
    if c = '\\' then escaped
    else if c = '"' then double false
    else if c = '\'' then single false
    else if Text.isBlank c && c ≠ '\n' && c ≠ '\r' then blank
    else plain
  | blank =>
    if c = '\\' then escaped
    else if c = '"' then double false
    else if c = '\'' then single false
    else plain
  | escaped => plain
  | single true => single false
  | single false => if c = '\\' then single true else if c = '\'' then plain else single false
  | double true => double false
  | double false => if c = '\\' then double true else if c = '"' then plain else double false

/-- The text of a line up to its comment, which follows a blank, and the place at its end. A comment
ends the line in any case. -/
def scanLine : Place → List Char → List Char × Place
  | place, [] => ([], place)
  | place, c :: rest =>
    if place = .blank ∧ c = '#' then ([], .plain)
    else
      let (kept, place) := scanLine (place.next c) rest
      (c :: kept, place)

def cutLines : List Char → List (List Char)
  | [] => []
  | c :: rest =>
    if c = '\n' then [c] :: cutLines rest
    else match cutLines rest with
      | [] => [[c]]
      | line :: lines => (c :: line) :: lines

def isComment (line : List Char) : Bool := (line.dropWhile Text.isBlank).head? = some '#'

/-- Join the lines over which a quoted value goes. A last line that is not ended is dropped. -/
def joinLines (place : Place) (front : List Char) : List (List Char) → List (List Char)
  | [] => []
  | line :: rest =>
    if front.isEmpty && isComment line then joinLines .plain [] rest
    else
      let (kept, place) := scanLine place line
      if place = .plain then (front ++ kept) :: joinLines .plain [] rest
      else joinLines place (front ++ kept) rest

def beginsName (c : Char) : Bool := c.isAlpha || c = '_'

def isNameChar (c : Char) : Bool := c.isAlphanum || c = '_' || c = '.'

def readName (cs : List Char) : Option (String × List Char) :=
  if cs.head?.any beginsName then
    some (String.ofList (cs.takeWhile isNameChar), (cs.dropWhile isNameChar).dropWhile Text.isBlank)
  else none

def readEquals : List Char → Option (List Char)
  | '=' :: rest => some (rest.dropWhile Text.isBlank)
  | _ => none

def readKey (cs : List Char) : Option (String × List Char) := do
  let (name, rest) ← readName cs
  if name = "export" ∧ rest.head? ≠ some '=' then
    let (name, rest) ← readName rest
    return (name, ← readEquals rest)
  return (name, ← readEquals rest)

def unescape (c : Char) : Option Char :=
  if c = 'n' then some '\n'
  else if c = '\\' ∨ c = '\'' ∨ c = '"' ∨ c = '$' ∨ c = ' ' then some c
  else none

inductive Reading where
  | plain
  | single
  | double
  | escaped (quoted : Bool)
  | variable (quoted braced : Bool) (name : List Char)
  | ended

def valueText (known : Variables) (name : List Char) : List Char :=
  ((known.get? (String.ofList name)).getD "").toList

/-- Read a value. In front of a name without braces stands a dollar sign, and the character that
ends the name stands for itself. -/
def readValue (known : Variables) : Reading → List Char → Option (List Char)
  | .plain, [] => some []
  | .ended, [] => some []
  | .escaped quoted, [] => if quoted then none else some []
  | .variable quoted braced name, [] => if quoted || braced then none else some (valueText known name)
  | .single, [] => none
  | .double, [] => none
  | .ended, c :: rest =>
    if c = ' ' ∨ c = '\t' then readValue known .ended rest
    else if c = '#' then some []
    else none
  | .escaped quoted, c :: rest => do
    let c ← unescape c
    return c :: (← readValue known (if quoted then .double else .plain) rest)
  | .single, c :: rest =>
    if c = '\'' then readValue known .plain rest else (readValue known .single rest).map (c :: ·)
  | .variable quoted braced name, c :: rest =>
    if braced then
      if c = '\x7d' then
        (readValue known (if quoted then .double else .plain) rest).map (valueText known name ++ ·)
      else readValue known (.variable quoted true (name ++ [c])) rest
    else if c.isAlphanum || 0x80 ≤ c.toNat then readValue known (.variable quoted false (name ++ [c])) rest
    else if c = '\x7b' && name.isEmpty then readValue known (.variable quoted true []) rest
    else if c = '$' then (readValue known (.variable quoted false []) rest).map (valueText known name ++ ·)
    else (readValue known (if quoted then .double else .plain) rest).map (valueText known name ++ c :: ·)
  | .double, c :: rest =>
    if c = '$' then readValue known (.variable true false []) rest
    else if c = '"' then readValue known .plain rest
    else if c = '\\' then readValue known (.escaped true) rest
    else (readValue known .double rest).map (c :: ·)
  | .plain, c :: rest =>
    if c = '$' then readValue known (.variable false false []) rest
    else if c = '\'' then readValue known .single rest
    else if c = '"' then readValue known .double rest
    else if c = '\\' then readValue known (.escaped false) rest
    else if c = ' ' ∨ c = '\t' then readValue known .ended rest
    else (readValue known .plain rest).map (c :: ·)

def readEntry (known : Variables) (cs : List Char) : Option (String × String) := do
  let (name, rest) ← readKey cs
  if rest.head? = some '#' then return (name, "")
  return (name, String.ofList (← readValue known .plain rest))

def addLines (known : Variables) : List (List Char) → Variables
  | [] => known
  | line :: rest =>
    let line := Text.trim line
    if line.isEmpty || line.head? = some '#' then addLines known rest
    else match readEntry known line with
      | none => known
      | some (name, value) => addLines (if known.contains name then known else known.put name value) rest

def addText (known : Variables) (text : String) : Variables :=
  let cs := text.toList
  let cs := if cs.head? = some '\uFEFF' then cs.tail else cs
  addLines known (joinLines .plain [] (cutLines cs))

def fileName : String := ".env"

def hasFile (disk : Disk) (names : List String) : Bool :=
  match disk.entry? (names.reverse ++ [fileName]) with
  | some (.file _) => true
  | _ => false

def textAt (disk : Disk) (names : List String) : Option String :=
  match disk.entry? (names.reverse ++ [fileName]) with
  | some (.file text) => text
  | _ => none

/-- The text of the nearest file of variables, in a folder or above it. The folder is given by its
names from the last to the first. -/
def nearestText? (disk : Disk) : List String → Option String
  | [] => textAt disk []
  | name :: above => if hasFile disk (name :: above) then textAt disk (name :: above) else nearestText? disk above

def addNearest (known : Variables) (disk : Disk) : Variables :=
  match nearestText? disk disk.workingFolder.reverse with
  | some text => known.addText text
  | none => known

end Variables

end SolutionCheck
