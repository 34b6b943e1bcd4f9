/-!
The text of paths. A path is a list of names between slashes; one that begins with a slash is absolute.
Joining keeps both texts as they are: an absolute second part stands alone, and an empty one leaves a
slash at the end.
-/

namespace SolutionCheck.Path

def isAbsolute (path : String) : Bool := path.toList.head? = some '/'

def join (base part : String) : String :=
  if isAbsolute part || base.isEmpty then part
  else if base.toList.getLast? = some '/' then base ++ part
  else base ++ "/" ++ part

def names (path : String) : List String :=
  ((path.toList.splitOn '/').filter fun name => !name.isEmpty).map String.ofList

def fileName? (path : String) : Option String :=
  match ((names path).filter (· ≠ ".")).getLast? with
  | some name => if name = ".." then none else some name
  | none => none

/-- The part of a name behind its last point, when something stands before the point. -/
def extension? (name : String) : Option String :=
  let pieces := name.toList.splitOn '.'
  match pieces with
  | [] => none
  | [_] => none
  | [[], _] => none
  | _ => if name = ".." then none else pieces.getLast?.map String.ofList

end SolutionCheck.Path
