import SolutionCheck.Json.Numerals
/-!
Reading documents. A reader gets the number of levels that may still be opened and the syntax at its
place, and goes through it in the order of the text, so that the fault met first is the one reported.
Values that nobody asks for are skipped with a lighter check: their levels are not counted, and the
ranges of their numbers and the pairing of their escapes are not looked at.
-/

namespace SolutionCheck.Json

/-- A document may open this many levels. -/
def maxDepth : Nat := 127

abbrev Reader (α : Type) := Nat → Document → Except Fault α

namespace Literal

def isHigh (n : Nat) : Bool := decide (0xD800 ≤ n ∧ n ≤ 0xDBFF)

def isLow (n : Nat) : Bool := decide (0xDC00 ≤ n ∧ n ≤ 0xDFFF)

def chars : Literal → Except Fault (List Char)
  | .closed => .ok []
  | .endOfText => .error .endInString
  | .control => .error .controlCharacter
  | .badEscape => .error .badEscape
  | .badHex => .error .badEscape
  | .char c rest => rest.chars.map (c :: ·)
  | .unit n rest =>
    if isLow n then .error .loneSurrogate
    else if !isHigh n then rest.chars.map (Char.ofNat n :: ·)
    else match rest with
      | .unit m rest =>
        if isLow m then rest.chars.map (Char.ofNat ((n - 0xD800) * 0x400 + (m - 0xDC00) + 0x10000) :: ·)
        else .error .loneSurrogate
      | .endOfText => .error .endInString
      | .badHex => .error .badEscape
      | _ => .error .unfinishedSurrogate

def text (l : Literal) : Except Fault String := l.chars.map String.ofList

def skip : Literal → Except Fault Unit
  | .closed => .ok ()
  | .endOfText => .error .endInString
  | .control => .error .controlCharacter
  | .badEscape => .error .badEscape
  | .badHex => .error .badEscape
  | .char _ rest => rest.skip
  | .unit _ rest => rest.skip

end Literal

def Stop.endList : Stop → Except Fault Unit
  | .closed => .ok ()
  | .endOfText => .error .endInList
  | .endAfterComma => .error .endInValue
  | .trailingComma => .error .trailingComma
  | .noSeparator => .error .noListSeparator

def Stop.endObject : Stop → Except Fault Unit
  | .closed => .ok ()
  | .endOfText => .error .endInObject
  | .endAfterComma => .error .endInValue
  | .trailingComma => .error .trailingComma
  | .noSeparator => .error .noObjectSeparator

def bareKeyFault (atEnd : Bool) : Fault := if atEnd then .endInObject else .noColon

mutual

def Document.skip : Document → Except Fault Unit
  | .missing => .error .endInValue
  | .stray => .error .noValue
  | .brokenWord cut => .error (if cut then .endInValue else .noWord)
  | .brokenNumber _ => .error .badNumber
  | .null => .ok ()
  | .bool _ => .ok ()
  | .number _ => .ok ()
  | .string l => l.skip
  | .array items => items.skip
  | .object members => members.skip

def Items.skip : Items → Except Fault Unit
  | .stop .trailingComma => .error .noValue
  | .stop s => s.endList
  | .item d rest => do
    d.skip
    rest.skip

def Members.skip : Members → Except Fault Unit
  | .stop .trailingComma => .error .keyNotString
  | .stop .endAfterComma => .error .endInObject
  | .stop s => s.endObject
  | .badKey _ => .error .keyNotString
  | .bareKey key atEnd => do
    key.skip
    .error (bareKeyFault atEnd)
  | .member key value rest => do
    key.skip
    value.skip
    rest.skip

end

section

variable [Numerals]

mutual

def readValue : Nat → Document → Except Fault Json
  | _, .missing => .error .endInValue
  | _, .stray => .error .noValue
  | _, .brokenWord cut => .error (if cut then .endInValue else .noWord)
  | _, .brokenNumber cut => .error (if cut then .endInValue else .badNumber)
  | _, .null => .ok .null
  | _, .bool b => .ok (.bool b)
  | _, .number n => n.value
  | _, .string l => l.text.map .string
  | 0, .array _ => .error .tooDeep
  | depth + 1, .array items => (readValues depth items).map .array
  | 0, .object _ => .error .tooDeep
  | depth + 1, .object members => (readEntries depth members).map .ofMembers

def readValues : Nat → Items → Except Fault (List Json)
  | _, .stop s => do
    s.endList
    .ok []
  | depth, .item d rest => do
    let item ← readValue depth d
    let items ← readValues depth rest
    .ok (item :: items)

def readEntries : Nat → Members → Except Fault (List (String × Json))
  | _, .stop s => do
    s.endObject
    .ok []
  | _, .badKey _ => .error .keyNotString
  | _, .bareKey key atEnd => do
    let _ ← key.text
    .error (bareKeyFault atEnd)
  | depth, .member key value rest => do
    let key ← key.text
    let value ← readValue depth value
    let entries ← readEntries depth rest
    .ok ((key, value) :: entries)

end

/-- Report that a value is of another kind than wanted; a broken value is reported as such. -/
def wrongType {α : Type} (wanted : String) (d : Document) : Except Fault α :=
  let reported (found : Found) : Except Fault α := .error (.wrongType found wanted)
  match d with
  | .array _ => reported .sequence
  | .object _ => reported .map
  | d => do
    match ← readValue 0 d with
    | .null => reported .null
    | .bool b => reported (.bool b)
    | .int n => reported (.int n)
    | .float x => reported (.float x)
    | .string s => reported (.string s)
    | .array _ => reported .sequence
    | .object _ => reported .map

def readStringAs (wanted : String) : Reader String := fun _ d =>
  match d with
  | .string l => l.text
  | d => wrongType wanted d

def readString : Reader String := readStringAs "a string"

def readBool : Reader Bool := fun _ d =>
  match d with
  | .bool b => .ok b
  | d => wrongType "a boolean" d

def readNat (bits : Nat) : Reader Nat := fun _ d =>
  let wanted := "u" ++ natText bits
  match d with
  | .number n => do
    match ← n.value with
    | .int i => if 0 ≤ i ∧ i < (Nat.pow 2 bits : Nat) then .ok i.toNat else .error (.wrongValue i wanted)
    | _ => wrongType wanted d
  | d => wrongType wanted d

end

def readOptional {α : Type} (reader : Reader α) : Reader (Option α) := fun depth d =>
  match d with
  | .null => .ok none
  | d => (reader depth d).map some

def readItems {α : Type} (reader : Document → Except Fault α) : Items → Except Fault (List α)
  | .stop s => do
    s.endList
    .ok []
  | .item d rest => do
    let item ← reader d
    let items ← readItems reader rest
    .ok (item :: items)

def readList [Numerals] {α : Type} (reader : Reader α) : Reader (List α) := fun depth d =>
  match depth, d with
  | 0, .array _ => .error .tooDeep
  | depth + 1, .array items => readItems (reader depth) items
  | _, d => wrongType "a sequence" d

def readMembers {α : Type} (reader : Document → Except Fault α) :
    Members → Except Fault (List (String × α))
  | .stop s => do
    s.endObject
    .ok []
  | .badKey _ => .error .keyNotString
  | .bareKey key atEnd => do
    let _ ← key.text
    .error (bareKeyFault atEnd)
  | .member key value rest => do
    let key ← key.text
    let value ← reader value
    let members ← readMembers reader rest
    .ok ((key, value) :: members)

def readKeyed [Numerals] {α : Type} (reader : Reader α) : Reader (Keyed α) := fun depth d =>
  match depth, d with
  | 0, .object _ => .error .tooDeep
  | depth + 1, .object members => (readMembers (reader depth) members).map .ofList
  | _, d => wrongType "a map" d

/-- A field of a structure: what reading it changes in the value that is being put together. -/
structure Field (α : Type) where
  name : String
  required : Bool
  update : Nat → Document → α → Except Fault α

def field {α β : Type} (name : String) (required : Bool) (reader : Reader β) (store : α → β → α) : Field α :=
  ⟨name, required, fun depth d a => (reader depth d).map (store a)⟩

def readFields {α : Type} (fields : List (Field α)) (depth : Nat) :
    List String → Members → α → Except Fault α
  | seen, .stop s, a => do
    s.endObject
    match fields.find? fun f => f.required && !seen.contains f.name with
    | some f => .error (.missingField f.name)
    | none => .ok a
  | _, .badKey _, _ => .error .keyNotString
  | seen, .bareKey key atEnd, _ => do
    let key ← key.text
    if seen.contains key then .error (.duplicateField key) else .error (bareKeyFault atEnd)
  | seen, .member key value rest, a => do
    let key ← key.text
    match fields.find? fun f => f.name = key with
    | some f =>
      if seen.contains key then .error (.duplicateField key)
      else
        let a ← f.update depth value a
        readFields fields depth (key :: seen) rest a
    | none =>
      value.skip
      readFields fields depth seen rest a

/-- Read the elements of an array as fields in their order. Fields that are not required may be left
out at the end. `count` fields have been passed, of `total`. -/
def readOrdered {α : Type} (wanted : String) (depth count : Nat) :
    List (Field α) → Items → α → Except Fault α
  | [], .stop .closed, a => .ok a
  | [], .stop .endOfText, _ => .error .endInList
  | [], .stop .trailingComma, _ => .error .trailingComma
  | [], _, _ => .error .trailingCharacters
  | f :: fields, .item d rest, a => do
    let a ← f.update depth d a
    readOrdered wanted depth (count + 1) fields rest a
  | f :: fields, .stop s, a => do
    s.endList
    if f.required then .error (.wrongLength count wanted)
    else readOrdered wanted depth (count + 1) fields (.stop s) a

def elementsWanted (name : String) (count : Nat) : String :=
  name ++ " with " ++ natText count ++ (if count = 1 then " element" else " elements")

/-- Read a structure, written as an object or as an array of its fields, starting from a value in
which the fields have their defaults. -/
def readStructure [Numerals] {α : Type} (name : String) (fields : List (Field α)) (start : α) : Reader α := fun depth d =>
  match depth, d with
  | 0, .array _ => .error .tooDeep
  | depth + 1, .array items =>
    readOrdered (elementsWanted ("struct " ++ name) fields.length) depth 0 fields items start
  | 0, .object _ => .error .tooDeep
  | depth + 1, .object members => readFields fields depth [] members start
  | _, d => wrongType ("struct " ++ name) d

def variantNamed {α : Type} (variants : List (String × α)) (wanted : String) (name : String) :
    Except Fault α :=
  match valueOf? variants name with
  | some a => .ok a
  | none => .error (.unknownVariant name wanted)

def oneOf (names : List String) : String := "one of " ++ String.intercalate ", " (names.map ticked)

/-- Read a bare variant: its name, or an object with its name over null. -/
def readVariant [Numerals] {α : Type} (variants : List (String × α)) (wanted : String) : Reader α := fun depth d =>
  match depth, d with
  | _, .missing => .error .endInValue
  | _, .string l => do variantNamed variants wanted (← l.text)
  | 0, .object _ => .error .tooDeep
  | _ + 1, .object members => do
    match members with
    | .stop .closed => .error .noValue
    | .stop _ => .error .endInValue
    | .badKey found => wrongType "variant identifier" found
    | .bareKey key atEnd =>
      let _ ← variantNamed variants wanted (← key.text)
      .error (bareKeyFault atEnd)
    | .member key value rest =>
      let a ← variantNamed variants wanted (← key.text)
      match value with
      | .null => .ok ()
      | value => wrongType "unit" value
      match rest with
      | .stop .closed => .ok a
      | .stop .endOfText => .error .endInObject
      | _ => .error .noValue
  | _, _ => .error .noValue

def readText {α : Type} (reader : Reader α) (s : String) : Except Fault α := do
  let (d, rest) := scan s.toList
  let a ← reader maxDepth d
  if (skipSpace rest).isEmpty then .ok a else .error .trailingCharacters

def parse [Numerals] (s : String) : Except Fault Json := readText readValue s

end SolutionCheck.Json
