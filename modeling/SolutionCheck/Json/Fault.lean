import SolutionCheck.Text.Quoted
import SolutionCheck.Number.Notation
/-!
What can be wrong with a document: its syntax, or a value of another kind than the reader wants.
Each cause has one text.
-/

namespace SolutionCheck.Json

inductive Found where
  | null
  | bool (b : Bool)
  | int (n : Int)
  | float (x : Binary64)
  | string (s : String)
  | sequence
  | map
deriving DecidableEq

inductive Fault where
  | endInValue
  | endInList
  | endInObject
  | endInString
  | noValue
  | noWord
  | badNumber
  | numberOutOfRange
  | trailingCharacters
  | trailingComma
  | noColon
  | noListSeparator
  | noObjectSeparator
  | keyNotString
  | badEscape
  | loneSurrogate
  | unfinishedSurrogate
  | controlCharacter
  | tooDeep
  | wrongType (found : Found) (wanted : String)
  | wrongValue (n : Int) (wanted : String)
  | wrongLength (n : Nat) (wanted : String)
  | missingField (name : String)
  | duplicateField (name : String)
  | unknownVariant (name : String) (wanted : String)
deriving DecidableEq

def ticked (name : String) : String := "\x60" ++ name ++ "\x60"

def Found.describe : Found → String
  | .null => "null"
  | .bool b => "boolean " ++ ticked (if b then "true" else "false")
  | .int n => "integer " ++ ticked (intText n)
  | .float x => "floating point " ++ ticked (FloatStyle.document.write x)
  | .string s => "string " ++ Text.quoted s
  | .sequence => "sequence"
  | .map => "map"

def Fault.message : Fault → String
  | .endInValue => "EOF while parsing a value"
  | .endInList => "EOF while parsing a list"
  | .endInObject => "EOF while parsing an object"
  | .endInString => "EOF while parsing a string"
  | .noValue => "expected value"
  | .noWord => "expected ident"
  | .badNumber => "invalid number"
  | .numberOutOfRange => "number out of range"
  | .trailingCharacters => "trailing characters"
  | .trailingComma => "trailing comma"
  | .noColon => "expected " ++ ticked ":"
  | .noListSeparator => "expected " ++ ticked "," ++ " or " ++ ticked "]"
  | .noObjectSeparator => "expected " ++ ticked "," ++ " or " ++ ticked "\x7d"
  | .keyNotString => "key must be a string"
  | .badEscape => "invalid escape"
  | .loneSurrogate => "lone leading surrogate in hex escape"
  | .unfinishedSurrogate => "unexpected end of hex escape"
  | .controlCharacter => "control character (\\u0000-\\u001F) found while parsing a string"
  | .tooDeep => "recursion limit exceeded"
  | .wrongType found wanted => "invalid type: " ++ found.describe ++ ", expected " ++ wanted
  | .wrongValue n wanted => "invalid value: integer " ++ ticked (intText n) ++ ", expected " ++ wanted
  | .wrongLength n wanted => "invalid length " ++ natText n ++ ", expected " ++ wanted
  | .missingField name => "missing field " ++ ticked name
  | .duplicateField name => "duplicate field " ++ ticked name
  | .unknownVariant name wanted => "unknown variant " ++ ticked name ++ ", expected " ++ wanted

end SolutionCheck.Json
