import SolutionCheck.Table.Stored
import SolutionCheck.Text.Quoted
/-!
Sample input: lists of records under the names of relations. Every relation becomes a table whose
columns are the keys of its records in ascending order, so that the order of keys in the records does
not matter. All records of a relation must have the same keys.
-/

namespace SolutionCheck

abbrev Sample := Keyed (List Record)

abbrev Relations := Keyed Table

def readSample [Json.Numerals] : Json.Reader Sample := Json.readKeyed (Json.readList readRecord)

def sampleJson (sample : Sample) : Json :=
  .ofKeyed (fun records => .array (records.map recordJson)) sample

/-- A record whose keys are not those of the first record of its relation. -/
structure SampleFault where
  relation : String
  row : Nat
  keys : List String
  columns : List String
deriving DecidableEq

namespace SampleFault

def reason (fault : SampleFault) : String :=
  "row " ++ natText fault.row ++ " has columns " ++ Text.quotedList fault.keys ++ ", expected " ++
    Text.quotedList fault.columns

def message (fault : SampleFault) : String :=
  "Malformed sample input for relation '" ++ fault.relation ++ "': " ++ fault.reason

end SampleFault

namespace Sample

/-- The columns of a relation: the keys of its first record, in ascending order. -/
def columnsOf (records : List Record) : List String := sortTexts ((records.head?.map Keyed.keys).getD [])

def fits (columns : List String) (record : Record) : Bool :=
  record.size == columns.length && columns.all record.contains

def fault? (relation : String) (records : List Record) : Option SampleFault :=
  let columns := columnsOf records
  records.zipIdx.findSome? fun (record, row) =>
    if fits columns record then none else some ⟨relation, row, sortTexts record.keys, columns⟩

def tableOf (records : List Record) : Table := .ofRecords (columnsOf records) records

def materialize (sample : Sample) : Except SampleFault Relations :=
  match sample.entries.findSome? fun (relation, records) => fault? relation records with
  | some fault => .error fault
  | none => .ok (sample.mapValues tableOf)

end Sample

end SolutionCheck
