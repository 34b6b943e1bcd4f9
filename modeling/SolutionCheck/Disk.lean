import SolutionCheck.Path
import SolutionCheck.Sorting
/-!
Files and folders as far as the program looks at them. A disk holds entries under the lists of names
that lead to them; the root is always there. Looking up a path goes through its folders one by one, so
that a missing folder and a file in its place are told apart. Changes give a new disk.
-/

namespace SolutionCheck

/-- The names that lead from the root to an entry. -/
abbrev Location := List String

/-- A file, with its text unless its bytes are no text, or a folder. -/
inductive Entry where
  | file (text : Option String)
  | folder
deriving DecidableEq

inductive FileFault where
  | notFound
  | alreadyThere
  | notFolder
  | isFolder
  | nameTooLong
  | notText
  | nullCharacter
deriving DecidableEq

namespace FileFault

def message : FileFault → String
  | notFound => "No such file or directory (os error 2)"
  | alreadyThere => "File exists (os error 17)"
  | notFolder => "Not a directory (os error 20)"
  | isFolder => "Is a directory (os error 21)"
  | nameTooLong => "File name too long (os error 36)"
  | notText => "stream did not contain valid UTF-8"
  | nullCharacter => "file name contained an unexpected NUL byte"

def kind : FileFault → String
  | notFound => "entity not found"
  | alreadyThere => "entity already exists"
  | notFolder => "not a directory"
  | isFolder => "is a directory"
  | nameTooLong => "invalid filename"
  | notText => "invalid data"
  | nullCharacter => "invalid input parameter"

end FileFault

structure Disk where
  entries : List (Location × Entry)
  workingFolder : Location
deriving DecidableEq

namespace Disk

def entry? (disk : Disk) (location : Location) : Option Entry :=
  if location.isEmpty then some .folder
  else (disk.entries.find? fun e => e.1 = location).map Prod.snd

def maxNameSize : Nat := 255

def pathSizeLimit : Nat := 4096

def enter (disk : Disk) (folder : Location) (name : String) : Except FileFault Location :=
  if name = "." then .ok folder
  else if name = ".." then .ok folder.dropLast
  else if maxNameSize < name.utf8ByteSize then .error .nameTooLong
  else match disk.entry? (folder ++ [name]) with
    | none => .error .notFound
    | some (.file _) => .error .notFolder
    | some .folder => .ok (folder ++ [name])

/-- Follow names from a folder. All but the last must be folders; what the last one stands for need
not be there. -/
def follow (disk : Disk) (folder : Location) : List String → Except FileFault Location
  | [] => .ok folder
  | [name] =>
    if name = "." ∨ name = ".." then disk.enter folder name
    else if maxNameSize < name.utf8ByteSize then .error .nameTooLong
    else .ok (folder ++ [name])
  | name :: rest => do
    let inner ← disk.enter folder name
    follow disk inner rest

def start (disk : Disk) (path : String) : Location :=
  if Path.isAbsolute path then [] else disk.workingFolder

def locate (disk : Disk) (path : String) : Except FileFault Location :=
  if path.toList.contains '\x00' then .error .nullCharacter
  else if path.isEmpty then .error .notFound
  else if pathSizeLimit ≤ path.utf8ByteSize then .error .nameTooLong
  else disk.follow (disk.start path) (Path.names path)

/-- A slash at the end asks for a folder. -/
def endsInSlash (path : String) : Bool := path.toList.getLast? = some '/'

def find (disk : Disk) (path : String) : Except FileFault (Location × Entry) := do
  let location ← disk.locate path
  match disk.entry? location with
  | none => .error .notFound
  | some (.file text) => if endsInSlash path then .error .notFolder else .ok (location, .file text)
  | some .folder => .ok (location, .folder)

def contains (disk : Disk) (path : String) : Bool :=
  match disk.find path with
  | .ok _ => true
  | .error _ => false

def isFile (disk : Disk) (path : String) : Bool :=
  match disk.find path with
  | .ok (_, .file _) => true
  | _ => false

def readText (disk : Disk) (path : String) : Except FileFault String := do
  match ← disk.find path with
  | (_, .file (some text)) => .ok text
  | (_, .file none) => .error .notText
  | (_, .folder) => .error .isFolder

def namesIn (disk : Disk) (folder : Location) : List String :=
  sortTexts (disk.entries.filterMap fun e => if e.1.dropLast = folder then e.1.getLast? else none)

def listFolder (disk : Disk) (path : String) : Except FileFault (List String) := do
  match ← disk.find path with
  | (location, .folder) => .ok (disk.namesIn location)
  | (_, .file _) => .error .notFolder

def put (disk : Disk) (location : Location) (entry : Entry) : Disk :=
  { disk with entries := (location, entry) :: disk.entries.filter fun e => e.1 ≠ location }

def remove (disk : Disk) (location : Location) : Disk :=
  { disk with entries := disk.entries.filter fun e => !location.isPrefixOf e.1 }

def writeText (disk : Disk) (path : String) (text : String) : Except FileFault Disk := do
  let location ← disk.locate path
  match disk.entry? location with
  | some .folder => .error .isFolder
  | some (.file _) => if endsInSlash path then .error .notFolder else .ok (disk.put location (.file (some text)))
  | none => if endsInSlash path then .error .isFolder else .ok (disk.put location (.file (some text)))

def workingPath (disk : Disk) : String := "/" ++ String.intercalate "/" disk.workingFolder

def contents (disk : Disk) (folder : Location) : List (Location × Entry) :=
  disk.entries.filterMap fun e =>
    if folder.isPrefixOf e.1 && e.1 ≠ folder then some (e.1.drop folder.length, e.2) else none

def setContents (disk : Disk) (folder : Location) (contents : List (Location × Entry)) : Disk :=
  let inside := (contents.filter fun e => !e.1.isEmpty).map fun e => (folder ++ e.1, e.2)
  { disk with entries := inside ++ disk.entries.filter fun e => !folder.isPrefixOf e.1 || e.1 = folder }

def makeFolder (disk : Disk) (folder : Location) (names : List String) : Except FileFault Disk := do
  let location ← disk.follow folder names
  match disk.entry? location with
  | some _ => .error .alreadyThere
  | none => .ok (disk.put location .folder)

def leadsToFolder (disk : Disk) (folder : Location) (names : List String) : Bool :=
  match disk.follow folder names with
  | .ok location => disk.entry? location = some .folder
  | .error _ => false

/-- Make the folder at some names, given from the last to the first, and the folders above it that are
missing. The folders made before a fault stay. -/
def ensureAt (disk : Disk) (folder : Location) : List String → Disk × Option FileFault
  | [] => (disk, none)
  | name :: above =>
    let names := (name :: above).reverse
    let settle (disk : Disk) (fault : FileFault) : Disk × Option FileFault :=
      if disk.leadsToFolder folder names then (disk, none) else (disk, some fault)
    match disk.makeFolder folder names with
    | .ok made => (made, none)
    | .error .notFound =>
      match ensureAt disk folder above with
      | (upper, some fault) => (upper, some fault)
      | (upper, none) =>
        match upper.makeFolder folder names with
        | .ok made => (made, none)
        | .error fault => settle upper fault
    | .error fault => settle disk fault

def ensureFolder (disk : Disk) (path : String) : Disk × Option FileFault :=
  if path.toList.contains '\x00' then (disk, some .nullCharacter)
  else if pathSizeLimit ≤ path.utf8ByteSize then (disk, some .nameTooLong)
  else disk.ensureAt (disk.start path) ((Path.names path).filter (· ≠ ".")).reverse

def createFolder (disk : Disk) (path : String) : Except FileFault Disk :=
  if path.toList.contains '\x00' then .error .nullCharacter
  else if path.isEmpty then .error .notFound
  else if pathSizeLimit ≤ path.utf8ByteSize then .error .nameTooLong
  else disk.makeFolder (disk.start path) (Path.names path)

def runFolderName (n : Nat) : String :=
  let digits := Nat.toDigits 10 n
  "bench-run-" ++ String.ofList (List.replicate (6 - digits.length) '0' ++ digits)

def freshName (disk : Disk) (folder : Location) : String :=
  let candidates := (List.range (disk.entries.length + 1)).map runFolderName
  (candidates.find? fun name => (disk.entry? (folder ++ [name])).isNone).getD (runFolderName 0)

end Disk

end SolutionCheck
