import SolutionCheck.Sql.Fault
/-!
Expressions as they are written: literals, names, calls, and operators by their levels. A name in
double quotes is marked, since it may turn out to be a text.
-/

namespace SolutionCheck.Sql

inductive Operator where
  | or
  | and
  | equal
  | notEqual
  | less
  | lessEqual
  | greater
  | greaterEqual
  | add
  | subtract
  | multiply
  | divide
  | remainder
deriving DecidableEq

inductive Expr where
  | literal (v : Value)
  | integer (n : Nat) (offset : Nat)
  | parameter (index : Nat)
  | name (name : String) (doubleQuoted : Bool) (offset : Nat)
  | plus (e : Expr)
  | negate (e : Expr)
  | not (e : Expr)
  | isNull (e : Expr)
  | binary (op : Operator) (left right : Expr)
  /-- a call with one argument, or with none or a star instead -/
  | call (function : String) (argument : Option Expr) (offset : Nat)

namespace Operator

/-- The level of an operator; one of a higher level binds its operands first. -/
def level : Operator → Nat
  | or => 1
  | and => 2
  | equal => 4
  | notEqual => 4
  | less => 5
  | lessEqual => 5
  | greater => 5
  | greaterEqual => 5
  | add => 6
  | subtract => 6
  | multiply => 7
  | divide => 7
  | remainder => 7

def negationLevel : Nat := 4

def symbols : List (String × Operator) :=
  [("=", equal), ("<>", notEqual), ("<", less), ("<=", lessEqual), (">", greater), (">=", greaterEqual),
    ("+", add), ("-", subtract), ("*", multiply), ("/", divide), ("%", remainder)]

def ofToken? (token : Token) : Option Operator :=
  match token.lexeme with
  | .symbol s => (symbols.find? (·.1 == s)).map Prod.snd
  | .word s => if fold s == "or" then some or else if fold s == "and" then some and else none
  | _ => none

def apply : Operator → Value → Value → Value
  | or => Value.or
  | and => Value.and
  | equal => Value.compareWith (· == .eq)
  | notEqual => Value.compareWith (· != .eq)
  | less => Value.compareWith (· == .lt)
  | lessEqual => Value.compareWith (· != .gt)
  | greater => Value.compareWith (· == .gt)
  | greaterEqual => Value.compareWith (· != .lt)
  | add => Value.add
  | subtract => Value.subtract
  | multiply => Value.multiply
  | divide => Value.divide
  | remainder => Value.remainder

end Operator

namespace Expr

mutual

def operandWithin : Nat → List Token → Except Fault (Expr × List Token)
  | 0, ts => .error (unexpectedAt ts)
  | _, [] => .error .incomplete
  | fuel + 1, token :: rest =>
    match token.lexeme with
    | .integer n => .ok (.integer n token.offset, rest)
    | .decimal x => .ok (.literal (.real x), rest)
    | .string s => .ok (.literal (.text s), rest)
    | .blob bytes => .ok (.literal (.blob bytes), rest)
    | .parameter index => .ok (.parameter index, rest)
    | .quotedName s double => .ok (.name s double token.offset, rest)
    | .symbol "-" => do
      let (e, rest) ← operandWithin fuel rest
      .ok (.negate e, rest)
    | .symbol "+" => do
      let (e, rest) ← operandWithin fuel rest
      .ok (.plus e, rest)
    | .symbol "(" => do
      let (e, rest) ← readWithin fuel 0 rest
      .ok (e, ← expectSymbol ")" rest)
    | .word s =>
      if fold s = "null" then .ok (.literal .null, rest)
      else if fold s = "not" then do
        let (e, rest) ← readWithin fuel Operator.negationLevel rest
        .ok (.not e, rest)
      else if reservedWords.contains (fold s) then .error (unexpectedAt (token :: rest))
      else match rest with
        | bracket :: inside =>
          if !bracket.isSymbol "(" then .ok (.name s false token.offset, rest)
          else match inside with
            | star :: after =>
              if star.isSymbol "*" then do .ok (.call s none token.offset, ← expectSymbol ")" after)
              else if star.isSymbol ")" then .ok (.call s none token.offset, after)
              else do
                let (e, rest) ← readWithin fuel 0 inside
                .ok (.call s (some e) token.offset, ← expectSymbol ")" rest)
            | [] => .error .incomplete
        | [] => .ok (.name s false token.offset, [])
    | _ => .error (unexpectedAt (token :: rest))

def readWithin : Nat → Nat → List Token → Except Fault (Expr × List Token)
  | 0, _, ts => .error (unexpectedAt ts)
  | fuel + 1, level, ts => do
    let (left, rest) ← operandWithin fuel ts
    continueWithin fuel level left rest

def continueWithin : Nat → Nat → Expr → List Token → Except Fault (Expr × List Token)
  | 0, _, _, ts => .error (unexpectedAt ts)
  | _, _, left, [] => .ok (left, [])
  | fuel + 1, level, left, token :: rest =>
    match Operator.ofToken? token with
    | some op =>
      if op.level < level then .ok (left, token :: rest)
      else do
        let (right, rest) ← readWithin fuel (op.level + 1) rest
        continueWithin fuel level (.binary op left right) rest
    | none =>
      if token.isWord "is" && decide (level ≤ Operator.equal.level) then
        match rest with
        | word :: after =>
          if word.isWord "null" then continueWithin fuel level (.isNull left) after
          else do
            let after ← expectWord "null" (← expectWord "not" (word :: after))
            continueWithin fuel level (.not (.isNull left)) after
        | [] => .error .incomplete
      else .ok (left, token :: rest)

end

/-- Read an expression. No token takes up more than three units of fuel. -/
def read (ts : List Token) : Reading Expr := readWithin (3 * ts.length + 3) 0 ts

end Expr

end SolutionCheck.Sql
