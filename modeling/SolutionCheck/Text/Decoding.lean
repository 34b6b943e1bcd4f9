/-!
Reading bytes as text. Well-formed sequences of one to four bytes stand for characters. Where the
bytes are ill-formed, the longest start of a sequence that is still possible, or one byte when there
is none, counts as one unreadable piece; the tolerant reading shows a replacement character for it.
-/

namespace SolutionCheck.Text

def continuation (b : UInt8) : Nat := b.toNat % 64

def isContinuation (b : UInt8) : Bool := decide (0x80 ≤ b ∧ b ≤ 0xBF)

/-- The bytes that may follow a leading byte, and how many continuations follow them; none for a byte
that leads no sequence of several bytes. -/
def secondByte? (lead : UInt8) : Option (UInt8 × UInt8 × Nat) :=
  if lead < 0xC2 then none
  else if lead ≤ 0xDF then some (0x80, 0xBF, 0)
  else if lead = 0xE0 then some (0xA0, 0xBF, 1)
  else if lead = 0xED then some (0x80, 0x9F, 1)
  else if lead ≤ 0xEF then some (0x80, 0xBF, 1)
  else if lead = 0xF0 then some (0x90, 0xBF, 2)
  else if lead ≤ 0xF3 then some (0x80, 0xBF, 2)
  else if lead = 0xF4 then some (0x80, 0x8F, 2)
  else none

def leadPayload (lead : UInt8) (count : Nat) : Nat := lead.toNat % Nat.pow 2 (5 - count)

/-- What stands at the start of some bytes: a character or an unreadable piece, and how many bytes
it takes after the first. -/
def piece (lead : UInt8) (rest : List UInt8) : Option Char × Nat :=
  if lead < 0x80 then (some (Char.ofNat lead.toNat), 0)
  else match secondByte? lead, rest with
    | none, _ => (none, 0)
    | some _, [] => (none, 0)
    | some (low, high, count), second :: others =>
      if second < low ∨ high < second then (none, 0)
      else
        let tail := (others.take count).takeWhile isContinuation
        if tail.length < count then (none, 1 + tail.length)
        else
          let start := leadPayload lead count * 64 + continuation second
          (some (Char.ofNat (tail.foldl (fun n b => n * 64 + continuation b) start)), 1 + count)

/-- The pieces of the bytes in order; `skip` bytes belong to the piece before. -/
def pieces : List UInt8 → Nat → List (Option Char)
  | [], _ => []
  | _ :: rest, skip + 1 => pieces rest skip
  | lead :: rest, 0 => (piece lead rest).1 :: pieces rest (piece lead rest).2

def decode? (bytes : List UInt8) : Option String := ((pieces bytes 0).mapM id).map String.ofList

def decodeLossy (bytes : List UInt8) : String :=
  String.ofList ((pieces bytes 0).map fun c => c.getD '\uFFFD')

end SolutionCheck.Text
