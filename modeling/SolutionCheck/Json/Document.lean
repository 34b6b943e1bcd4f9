import SolutionCheck.Json.Fault
/-!
The syntax of a text, as far as it can be followed. Scanning never fails: where the text breaks off
or goes wrong, the tree says so at that place, and a reader that gets there reports it. What a reader
need not look at is therefore not judged, and of several faults the one met first is reported.
-/

namespace SolutionCheck.Json

inductive Literal where
  | closed
  | endOfText
  | control
  | badEscape
  | badHex
  | char (c : Char) (rest : Literal)
  /-- an escape with four hexadecimal digits -/
  | unit (n : Nat) (rest : Literal)

structure Numeral where
  negative : Bool
  whole : List Char
  fraction : List Char
  power : Int
  /-- neither a point nor an exponent is written -/
  integral : Bool

def Numeral.digits (n : Numeral) : Nat := Nat.ofDigitChars 10 (n.whole ++ n.fraction) 0

def Numeral.exponent (n : Numeral) : Int := n.power - n.fraction.length

inductive Stop where
  | closed
  | endOfText
  | endAfterComma
  | trailingComma
  | noSeparator
deriving DecidableEq

mutual

inductive Document where
  | missing
  | stray
  /-- a word other than the three known ones; `cut` when the text ends inside it -/
  | brokenWord (cut : Bool)
  | brokenNumber (cut : Bool)
  | null
  | bool (b : Bool)
  | number (n : Numeral)
  | string (l : Literal)
  | array (items : Items)
  | object (members : Members)

inductive Items where
  | stop (s : Stop)
  | item (d : Document) (rest : Items)

inductive Members where
  | stop (s : Stop)
  | badKey (found : Document)
  | bareKey (key : Literal) (atEnd : Bool)
  | member (key : Literal) (value : Document) (rest : Members)

end

def skipSpace (cs : List Char) : List Char :=
  cs.dropWhile fun c => c = ' ' || c = '\n' || c = '\t' || c = '\r'

def hexDigit? (c : Char) : Option Nat :=
  if '0' ≤ c ∧ c ≤ '9' then some (c.toNat - '0'.toNat)
  else if 'a' ≤ c ∧ c ≤ 'f' then some (c.toNat - 'a'.toNat + 10)
  else if 'A' ≤ c ∧ c ≤ 'F' then some (c.toNat - 'A'.toNat + 10)
  else none

def hexNumber? (a b c d : Char) : Option Nat := do
  return (((← hexDigit? a) * 16 + (← hexDigit? b)) * 16 + (← hexDigit? c)) * 16 + (← hexDigit? d)

def escaped? : Char → Option Char
  | '"' => some '"'
  | '\\' => some '\\'
  | '/' => some '/'
  | 'b' => some '\x08'
  | 'f' => some '\x0c'
  | 'n' => some '\n'
  | 'r' => some '\r'
  | 't' => some '\t'
  | _ => none

def lacksHex (cs : List Char) : Bool := decide ((String.ofList cs).utf8ByteSize < 4)

def scanLiteral : List Char → Literal × List Char
  | [] => (.endOfText, [])
  | ['\\'] => (.endOfText, [])
  | ['\\', 'u'] => (.endOfText, [])
  | '\\' :: 'u' :: a :: b :: c :: d :: rest =>
    match hexNumber? a b c d with
    | some n => let (l, after) := scanLiteral rest; (.unit n l, after)
    | none => (.badHex, rest)
  | '\\' :: 'u' :: rest => (if lacksHex rest then .endOfText else .badHex, rest)
  | '\\' :: letter :: rest =>
    match escaped? letter with
    | some c => let (l, after) := scanLiteral rest; (.char c l, after)
    | none => (.badEscape, rest)
  | c :: rest =>
    if c = '"' then (.closed, rest)
    else if c.toNat < 0x20 then (.control, rest)
    else let (l, after) := scanLiteral rest; (.char c l, after)

def scanWord (value : Document) : List Char → List Char → Document × List Char
  | [], cs => (value, cs)
  | _ :: _, [] => (.brokenWord true, [])
  | letter :: letters, c :: cs =>
    if c = letter then scanWord value letters cs else (.brokenWord false, cs)

def scanExponent (negative : Bool) (whole fraction cs : List Char) : Document × List Char :=
  let (down, rest) : Bool × List Char := match cs with
    | '+' :: rest => (false, rest)
    | '-' :: rest => (true, rest)
    | rest => (false, rest)
  let power := rest.takeWhile Char.isDigit
  if power.isEmpty then (.brokenNumber rest.isEmpty, rest)
  else
    let size : Int := Nat.ofDigitChars 10 power 0
    (.number ⟨negative, whole, fraction, if down then -size else size, false⟩, rest.dropWhile Char.isDigit)

def scanAfterDigits (negative : Bool) (whole fraction : List Char) (integral : Bool) (cs : List Char) :
    Document × List Char :=
  match cs with
  | 'e' :: rest => scanExponent negative whole fraction rest
  | 'E' :: rest => scanExponent negative whole fraction rest
  | _ => (.number ⟨negative, whole, fraction, 0, integral⟩, cs)

/-- Scan a number behind its sign. A zero at the front stands alone before the point. -/
def scanNumber (negative : Bool) (cs : List Char) : Document × List Char :=
  let whole := cs.takeWhile Char.isDigit
  let rest := cs.dropWhile Char.isDigit
  if whole.isEmpty then (.brokenNumber cs.isEmpty, cs)
  else if whole.head? = some '0' ∧ 1 < whole.length then (.brokenNumber false, cs)
  else match rest with
    | '.' :: rest =>
      let fraction := rest.takeWhile Char.isDigit
      if fraction.isEmpty then (.brokenNumber rest.isEmpty, rest)
      else scanAfterDigits negative whole fraction false (rest.dropWhile Char.isDigit)
    | rest => scanAfterDigits negative whole [] true rest

mutual

def scanValue : Nat → List Char → Document × List Char
  | 0, cs => (.missing, cs)
  | fuel + 1, cs =>
    match skipSpace cs with
    | [] => (.missing, [])
    | 'n' :: rest => scanWord .null ['u', 'l', 'l'] rest
    | 't' :: rest => scanWord (.bool true) ['r', 'u', 'e'] rest
    | 'f' :: rest => scanWord (.bool false) ['a', 'l', 's', 'e'] rest
    | '"' :: rest => let (l, after) := scanLiteral rest; (.string l, after)
    | '[' :: rest => let (items, after) := scanItems fuel true rest; (.array items, after)
    | '{' :: rest => let (members, after) := scanMembers fuel true rest; (.object members, after)
    | '-' :: rest => scanNumber true rest
    | c :: rest => if c.isDigit then scanNumber false (c :: rest) else (.stray, c :: rest)

def scanItems : Nat → Bool → List Char → Items × List Char
  | 0, _, cs => (.stop .endOfText, cs)
  | fuel + 1, first, cs =>
    let element (cs : List Char) : Items × List Char :=
      let (d, after) := scanValue fuel cs
      let (rest, after) := scanItems fuel false after
      (.item d rest, after)
    match skipSpace cs with
    | [] => (.stop .endOfText, [])
    | ']' :: rest => (.stop .closed, rest)
    | c :: rest =>
      if first then element (c :: rest)
      else if c = ',' then
        match skipSpace rest with
        | [] => (.stop .endAfterComma, [])
        | ']' :: rest => (.stop .trailingComma, rest)
        | rest => element rest
      else (.stop .noSeparator, c :: rest)

def scanMembers : Nat → Bool → List Char → Members × List Char
  | 0, _, cs => (.stop .endOfText, cs)
  | fuel + 1, first, cs =>
    let member (cs : List Char) : Members × List Char :=
      match cs with
      | '"' :: rest =>
        let (key, after) := scanLiteral rest
        match skipSpace after with
        | ':' :: after =>
          let (value, after) := scanValue fuel after
          let (rest, after) := scanMembers fuel false after
          (.member key value rest, after)
        | after => (.bareKey key after.isEmpty, after)
      | cs => let (found, after) := scanValue fuel cs; (.badKey found, after)
    match skipSpace cs with
    | [] => (.stop .endOfText, [])
    | '}' :: rest => (.stop .closed, rest)
    | c :: rest =>
      if first then member (c :: rest)
      else if c = ',' then
        match skipSpace rest with
        | [] => (.stop .endAfterComma, [])
        | '}' :: rest => (.stop .trailingComma, rest)
        | rest => member rest
      else (.stop .noSeparator, c :: rest)

end

/-- The syntax of the value at the start of a text, and what follows it. Opening a level takes two
units of fuel and one character, and every further element at least one of each. -/
def scan (cs : List Char) : Document × List Char := scanValue (2 * cs.length + 2) cs

end SolutionCheck.Json
