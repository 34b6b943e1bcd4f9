import SolutionCheck.Language
/-!
Submitted programs: the source text of a solution to a task, with its language and author. Parts of
the source may be marked as carrying out steps of the task's plan.
-/

namespace SolutionCheck

structure Span where
  line : Nat
  start : Nat
  stop : Nat
deriving DecidableEq

structure Submission where
  task : String
  language : String
  /-- the parts that carry out the steps of the plan -/
  plan : Keyed (List Span)
  source : String
  author : String
  implementation : String
deriving DecidableEq

inductive SubmissionFault where
  | noAuthor
  | noSource
  | unknownLanguage (id : String)
deriving DecidableEq

def SubmissionFault.message : SubmissionFault → String
  | .noAuthor => "Author must not be empty"
  | .noSource => "Source must not be empty"
  | .unknownLanguage id => id ++ " is not a valid language"

namespace Span

def toJson (span : Span) : Json :=
  .object [("line", .int span.line), ("start", .int span.start), ("end", .int span.stop)]

def fields [Json.Numerals] : List (Json.Field Span) :=
  [Json.field "line" true (Json.readNat 32) fun s line => { s with line },
    Json.field "start" true (Json.readNat 32) fun s start => { s with start },
    Json.field "end" true (Json.readNat 32) fun s stop => { s with stop }]

def read [Json.Numerals] : Json.Reader Span := Json.readStructure "SourceRange" fields ⟨0, 0, 0⟩

end Span

namespace Submission

def anonymous (task language source : String) : Submission := ⟨task, language, ∅, source, "", ""⟩

def toJson (s : Submission) : Json :=
  .object [("task", .string s.task), ("language", .string s.language),
    ("plan", .ofKeyed (fun spans => .array (spans.map Span.toJson)) s.plan), ("source", .string s.source),
    ("author", .string s.author), ("implementation", .string s.implementation)]

def fields [Json.Numerals] : List (Json.Field Submission) :=
  [Json.field "task" true Json.readString fun s task => { s with task },
    Json.field "language" true Json.readString fun s language => { s with language },
    Json.field "plan" false (Json.readKeyed (Json.readList Span.read)) fun s plan => { s with plan },
    Json.field "source" false Json.readString fun s source => { s with source },
    Json.field "author" false Json.readString fun s author => { s with author },
    Json.field "implementation" false Json.readString fun s implementation => { s with implementation }]

def read [Json.Numerals] : Json.Reader Submission := Json.readStructure "Program" fields ⟨"", "", ∅, "", "", ""⟩

def parse [Json.Numerals] (text : String) : Except Json.Fault Submission := Json.readText read text

def fileName (s : Submission) : String := s.language ++ "_" ++ s.implementation ++ "_" ++ s.author ++ ".json"

def fault? (catalog : Catalog) (s : Submission) : Option SubmissionFault :=
  if s.author.isEmpty then some .noAuthor
  else if s.source.isEmpty then some .noSource
  else if !catalog.contains s.language then some (.unknownLanguage s.language)
  else none

end Submission

end SolutionCheck
