import SolutionCheck.Sql.Value
/-!
The tokens of a statement. A token knows its text, the blanks and comments behind it, and the place
where it starts, counted in bytes. Characters that begin no token, and literals and quoted names that
are not closed, make an illegal token, which is reported only when a reader reaches it.
-/

namespace SolutionCheck.Sql

inductive Lexeme where
  | word (s : String)
  /-- a quoted name; one in double quotes may turn out to be a text -/
  | quotedName (s : String) (double : Bool)
  | string (s : String)
  | blob (bytes : List UInt8)
  | integer (n : Nat)
  | decimal (x : Binary64)
  | parameter (index : Nat)
  | symbol (s : String)
  | illegal
  | blank
deriving DecidableEq

structure Token where
  lexeme : Lexeme
  text : List Char
  after : List Char
  offset : Nat
deriving DecidableEq

namespace Lexeme

def quoteName (name : String) : String :=
  String.ofList ('"' :: (name.toList.flatMap fun c => if c = '"' then ['"', '"'] else [c]) ++ ['"'])

/-- What stands between quotes and what follows the closing one, after the opening one was passed. -/
def quotedBody (quote : Char) : List Char → Option (List Char × List Char)
  | [] => none
  | c :: [] => if c = quote then some ([], []) else none
  | c :: d :: rest =>
    if c ≠ quote then (quotedBody quote (d :: rest)).map fun (body, after) => (c :: body, after)
    else if d = quote then (quotedBody quote rest).map fun (body, after) => (c :: body, after)
    else some ([], d :: rest)

def isSpace (c : Char) : Bool := c = ' ' || c = '\t' || c = '\n' || c = '\x0c' || c = '\r' || c = '\uFEFF'

def isNameStart (c : Char) : Bool := c.isAlpha || c = '_' || decide (0x80 ≤ c.toNat)

def isNamePart (c : Char) : Bool := isNameStart c || c.isDigit || c = '$'

def afterBlock : List Char → List Char
  | '*' :: '/' :: rest => rest
  | _ :: rest => afterBlock rest
  | [] => []

def hexDigit? (c : Char) : Option Nat :=
  if c.isDigit then some (c.toNat - '0'.toNat)
  else if 'a' ≤ c.toLower ∧ c.toLower ≤ 'f' then some (c.toLower.toNat - 'a'.toNat + 10)
  else none

def hexBytes? : List Char → Option (List UInt8)
  | [] => some []
  | [_] => none
  | a :: b :: rest => do
    let high ← hexDigit? a
    let low ← hexDigit? b
    return UInt8.ofNat (high * 16 + low) :: (← hexBytes? rest)

def rejectName (lexeme : Lexeme) (rest : List Char) : Lexeme × List Char :=
  if rest.head?.any isNamePart then (illegal, rest.dropWhile isNamePart) else (lexeme, rest)

def scanNumber (cs : List Char) : Lexeme × List Char :=
  let whole := cs.takeWhile Char.isDigit
  let rest := cs.dropWhile Char.isDigit
  let hasPoint := rest.head? = some '.'
  let fraction := if hasPoint then (rest.drop 1).takeWhile Char.isDigit else []
  let rest := if hasPoint then (rest.drop 1).dropWhile Char.isDigit else rest
  let (exponent, hasExponent) := Numeric.leadingExponent rest
  let rest := if hasExponent then ((rest.drop 1).dropWhile fun c => c = '+' || c = '-').dropWhile Char.isDigit else rest
  let digits := Nat.ofDigitChars 10 (whole ++ fraction) 0
  rejectName (if hasPoint || hasExponent then decimal (.ofDecimal false digits (exponent - fraction.length))
    else integer digits) rest

def scanQuoted (quote : Char) (make : String → Lexeme) (cs : List Char) : Lexeme × List Char :=
  match quotedBody quote cs with
  | some (body, rest) => (make (String.ofList body), rest)
  | none => (illegal, [])

def scanBlob (cs : List Char) : Lexeme × List Char :=
  let body := cs.takeWhile (· ≠ '\'')
  match cs.dropWhile (· ≠ '\''), hexBytes? body with
  | _ :: rest, some bytes => (blob bytes, rest)
  | rest, _ => (illegal, rest.drop 1)

def scanNamedParameter (cs : List Char) : Lexeme × List Char :=
  if cs.head?.any isNamePart then (parameter 0, cs.dropWhile isNamePart) else (illegal, cs)

def scan (c : Char) (cs : List Char) : Lexeme × List Char :=
  if isSpace c then (blank, cs.dropWhile isSpace)
  else match c, cs with
  | '-', '-' :: rest => (blank, rest.dropWhile (· ≠ '\n'))
  | '/', '*' :: rest => (blank, afterBlock rest)
  | '\'', cs => scanQuoted '\'' string cs
  | '"', cs => scanQuoted '"' (quotedName · true) cs
  | '\x60', cs => scanQuoted '\x60' (quotedName · false) cs
  | '[', cs => match cs.dropWhile (· ≠ ']') with
    | _ :: rest => (quotedName (String.ofList (cs.takeWhile (· ≠ ']'))) false, rest)
    | [] => (illegal, [])
  | '?', cs => (parameter 0, cs.dropWhile Char.isDigit)
  | ':', cs => scanNamedParameter cs
  | '@', cs => scanNamedParameter cs
  | '$', cs => scanNamedParameter cs
  | '=', '=' :: rest => (symbol "=", rest)
  | '<', '=' :: rest => (symbol "<=", rest)
  | '<', '>' :: rest => (symbol "<>", rest)
  | '>', '=' :: rest => (symbol ">=", rest)
  | '!', '=' :: rest => (symbol "<>", rest)
  | c, cs =>
    if c.isDigit || (c = '.' && cs.head?.any Char.isDigit) then scanNumber (c :: cs)
    else if (c = 'x' || c = 'X') && cs.head? = some '\'' then scanBlob (cs.drop 1)
    else if isNameStart c then
      (word (String.ofList (c :: cs.takeWhile isNamePart)), cs.dropWhile isNamePart)
    else if "=<>-+*/%(),.;|&~".toList.contains c then (symbol c.toString, cs)
    else (illegal, cs)

end Lexeme

namespace Token

/-- The lexemes of a text with their texts and offsets, blanks included. Each takes at least one
character and one unit of `fuel`. -/
def scanAll : Nat → Nat → List Char → List Token
  | 0, _, _ => []
  | _, _, [] => []
  | fuel + 1, offset, c :: cs =>
    let (lexeme, rest) := Lexeme.scan c cs
    let text := (c :: cs).take (cs.length + 1 - rest.length)
    ⟨lexeme, text, [], offset⟩ :: scanAll fuel (offset + (text.map Char.utf8Size).sum) rest

def attachBlanks (scanned : List Token) : List Token :=
  (scanned.foldr (fun token (blanks, tokens) =>
    if token.lexeme = .blank then (token.text ++ blanks, tokens)
    else ([], { token with after := blanks } :: tokens)) (([], []) : List Char × List Token)).2

/-- The index of a parameter, where `known` holds those before it and `next` is the first index above
theirs. One without a name or number takes `next`; one with a number has its own, counted from one; and
one with a name has that of its name before, if there was one. -/
def parameterIndex (known : List (List Char × Nat)) (next : Nat) (text : List Char) : Nat :=
  match text with
  | ['?'] => next
  | '?' :: digits => Nat.ofDigitChars 10 digits 0 - 1
  | _ => ((known.find? fun before => before.1 == text).map Prod.snd).getD next

def numberParameters (known : List (List Char × Nat)) (next : Nat) : List Token → List Token
  | [] => []
  | token :: rest => match token.lexeme with
    | .parameter _ =>
      let index := parameterIndex known next token.text
      { token with lexeme := .parameter index } ::
        numberParameters ((token.text, index) :: known) (max next (index + 1)) rest
    | _ => token :: numberParameters known next rest

def parameterCount (ts : List Token) : Nat :=
  ts.foldl (fun count token => match token.lexeme with
    | .parameter index => max count (index + 1)
    | _ => count) 0

/-- The tokens of a text. A text ends at its first null character. -/
def tokens (s : String) : List Token :=
  let cs := s.toList.takeWhile (· ≠ '\x00')
  numberParameters [] 0 (attachBlanks (scanAll cs.length 0 cs))

def spanText (ts : List Token) : String :=
  let cs := ts.flatMap fun token => token.text ++ token.after
  String.ofList ((cs.dropWhile Numeric.isSpace).reverse.dropWhile Numeric.isSpace).reverse

end Token

end SolutionCheck.Sql
