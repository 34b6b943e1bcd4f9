import SolutionCheck.Json.Reader
/-!
Reading structures that name their variant in a member, or in their first element when they are
written as an array. The whole value is checked before the fields of the variant are read, so that a
fault of syntax anywhere in it comes before a missing or misplaced field.
-/

namespace SolutionCheck.Json

def Items.takeCount : Nat → Items → Items × Nat
  | _, .stop s => (.stop s, 0)
  | 0, .item _ rest => (.stop .closed, (rest.takeCount 0).2 + 1)
  | n + 1, .item d rest => let (taken, count) := rest.takeCount n; (.item d taken, count + 1)

def readTag [Numerals] (wanted : String) (names : List String) (d : Document) : Except Fault String := do
  let name ← readStringAs "variant identifier" 0 d
  if names.contains name then .ok name else .error (.unknownVariant name wanted)

/-- Take the tag out of the members, checking the values of the others. -/
def splitTag [Numerals] (tag wanted : String) (names : List String) (depth : Nat) :
    Option String → Members → Except Fault (Option String × Members)
  | found, .stop s => do
    s.endObject
    .ok (found, .stop s)
  | _, .badKey _ => .error .keyNotString
  | found, .bareKey key atEnd => do
    let key ← key.text
    if key = tag ∧ found.isSome then .error (.duplicateField tag) else .error (bareKeyFault atEnd)
  | found, .member key value rest => do
    let name ← key.text
    if name = tag then
      if found.isSome then .error (.duplicateField tag)
      else
        let variant ← readTag wanted names value
        splitTag tag wanted names depth (some variant) rest
    else
      let _ ← readValue depth value
      let (found, rest) ← splitTag tag wanted names depth found rest
      .ok (found, .member key value rest)

/-- Split a tagged value into the name of its variant and the value without it. -/
def readTagged [Numerals] (enumeration tag wanted : String) (names : List String) : Reader (String × Document) :=
  fun depth d =>
    match depth, d with
    | 0, .array _ => .error .tooDeep
    | _ + 1, .array (.stop s) => do
      s.endList
      .error (.missingField tag)
    | depth + 1, .array (.item d rest) => do
      let variant ← readTag wanted names d
      let _ ← readValues depth rest
      .ok (variant, .array rest)
    | 0, .object _ => .error .tooDeep
    | depth + 1, .object members => do
      let (variant, rest) ← splitTag tag wanted names depth none members
      match variant with
      | some variant => .ok (variant, .object rest)
      | none => .error (.missingField tag)
    | _, d => wrongType ("internally tagged enum " ++ enumeration) d

def readVariantFields [Numerals] {α : Type} (name : String) (fields : List (Field α)) (start : α) : Reader α :=
  fun depth d =>
    match d with
    | .object members => readFields fields (depth - 1) [] members start
    | .array items => do
      let (taken, count) := items.takeCount fields.length
      let a ← readOrdered (elementsWanted ("struct variant " ++ name) fields.length) (depth - 1) 0 fields taken start
      if count ≤ fields.length then .ok a
      else .error (.wrongLength count (natText fields.length ++
        (if fields.length = 1 then " element" else " elements") ++ " in sequence"))
    | d => wrongType ("struct variant " ++ name) d

end SolutionCheck.Json
