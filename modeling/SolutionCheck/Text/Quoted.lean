import SolutionCheck.Text.Unprintable
/-!
Text quoted for a message: between double quotes, with a backslash before quotes and backslashes,
letters for the common controls, and the number of any other character without a glyph of its own.
Names of files are quoted in the same way, with a backslash before apostrophes too.
-/

namespace SolutionCheck.Text

def quotedChar (c : Char) : List Char :=
  if c = '"' then ['\\', '"']
  else if c = '\\' then ['\\', '\\']
  else if c = '\t' then ['\\', 't']
  else if c = '\n' then ['\\', 'n']
  else if c = '\r' then ['\\', 'r']
  else if c = '\x00' then ['\\', '0']
  else if isUnprintable c then '\\' :: 'u' :: '{' :: Nat.toDigits 16 c.toNat ++ ['}']
  else [c]

def quoted (s : String) : String :=
  String.ofList ('"' :: s.toList.flatMap quotedChar ++ ['"'])

def quotedList (texts : List String) : String :=
  "[" ++ String.intercalate ", " (texts.map quoted) ++ "]"

def quotedPath (path : String) : String :=
  String.ofList ('"' :: (path.toList.flatMap fun c => if c = '\'' then ['\\', '\''] else quotedChar c) ++ ['"'])

end SolutionCheck.Text
