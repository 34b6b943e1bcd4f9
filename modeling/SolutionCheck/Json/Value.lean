import SolutionCheck.Keyed
import SolutionCheck.Number.Notation
/-!
Structured values and their written form. Objects keep the order of their members. Numbers are
integers or finite floats and stay apart. The compact form has no blanks; the indented form puts
every element on a line of its own, two blanks deeper than what holds it.
-/

namespace SolutionCheck

inductive Json where
  | null
  | bool (b : Bool)
  | int (n : Int)
  | float (x : Binary64)
  | string (s : String)
  | array (items : List Json)
  | object (members : List (String × Json))
deriving Inhabited

namespace Json

def writtenChar (c : Char) : List Char :=
  if c = '"' then ['\\', '"']
  else if c = '\\' then ['\\', '\\']
  else if c = '\x08' then ['\\', 'b']
  else if c = '\x0c' then ['\\', 'f']
  else if c = '\n' then ['\\', 'n']
  else if c = '\r' then ['\\', 'r']
  else if c = '\t' then ['\\', 't']
  else if c.toNat < 0x20 then
    ['\\', 'u', '0', '0', Nat.digitChar (c.toNat / 16), Nat.digitChar (c.toNat % 16)]
  else [c]

def writtenString (s : String) : List Char := '"' :: s.toList.flatMap writtenChar ++ ['"']

mutual

def compact : Json → List Char
  | .null => ['n', 'u', 'l', 'l']
  | .bool true => ['t', 'r', 'u', 'e']
  | .bool false => ['f', 'a', 'l', 's', 'e']
  | .int n => intDigits n
  | .float x => FloatStyle.document.digits x
  | .string s => writtenString s
  | .array items => '[' :: compactItems items
  | .object members => '{' :: compactMembers members

def compactItems : List Json → List Char
  | [] => [']']
  | [item] => compact item ++ [']']
  | item :: rest => compact item ++ ',' :: compactItems rest

def compactMembers : List (String × Json) → List Char
  | [] => ['}']
  | [(key, value)] => writtenString key ++ ':' :: compact value ++ ['}']
  | (key, value) :: rest => writtenString key ++ ':' :: compact value ++ ',' :: compactMembers rest

end

def newLine (level : Nat) : List Char := '\n' :: List.replicate (2 * level) ' '

mutual

def indented (level : Nat) : Json → List Char
  | .array [] => ['[', ']']
  | .array items => '[' :: indentedItems (level + 1) items ++ newLine level ++ [']']
  | .object [] => ['{', '}']
  | .object members => '{' :: indentedMembers (level + 1) members ++ newLine level ++ ['}']
  | value => compact value

def indentedItems (level : Nat) : List Json → List Char
  | [] => []
  | [item] => newLine level ++ indented level item
  | item :: rest => newLine level ++ indented level item ++ ',' :: indentedItems level rest

def indentedMembers (level : Nat) : List (String × Json) → List Char
  | [] => []
  | [(key, value)] => newLine level ++ writtenString key ++ ':' :: ' ' :: indented level value
  | (key, value) :: rest =>
    newLine level ++ writtenString key ++ ':' :: ' ' :: indented level value ++
      ',' :: indentedMembers level rest

end

def text (j : Json) : String := String.ofList j.compact

def indentedText (j : Json) : String := String.ofList (j.indented 0)

/-- An object from members, of which a repeated key keeps its first place and its last value. -/
def ofMembers (members : List (String × Json)) : Json :=
  .object (members.foldl (fun entries member => putEntry member.1 member.2 entries) [])

def ofKeyed {α : Type} (f : α → Json) (t : Keyed α) : Json := .object (t.mapValues f).entries

def ofTexts (texts : List String) : Json := .array (texts.map .string)

end Json

end SolutionCheck
