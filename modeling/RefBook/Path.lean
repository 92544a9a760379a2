import RefBook.Text.Split

/-! Paths are texts in which a slash parts one name from the next. -/

namespace RefBook.Path

/-- One step on the way that a path describes. -/
inductive Step
  /-- To the top of all files; only as the first step. -/
  | top
  /-- Nowhere, but only a directory can be stayed in. -/
  | here
  | up
  | down (name : String)
deriving DecidableEq, Repr, Inhabited

def Step.ofPiece (piece : List Char) : Step :=
  if piece == ['.'] then .here
  else if piece == ['.', '.'] then .up
  else .down (String.ofList piece)

/-- Whether a path starts at the top of all files. -/
def isAbsolute (path : String) : Bool := path.toList.head? == some '/'

/-- All steps of a path, one for each name between the slashes. -/
def allSteps (path : String) : List Step :=
  let names := (Text.splitOn '/' path.toList).filter fun piece => !piece.isEmpty
  (if isAbsolute path then [.top] else []) ++ names.map Step.ofPiece

/-- The steps of a path that lead somewhere else. -/
def steps (path : String) : List Step := (allSteps path).filter (· != .here)

/-- The name that a path ends in, if its last step is one down. -/
def fileName? (path : String) : Option String :=
  match (steps path).getLast? with
  | some (.down name) => some name
  | _ => none

/-- The path of `name` inside the directory `dir`. -/
def join (dir name : String) : String :=
  if isAbsolute name || dir.isEmpty then name
  else if dir.toList.getLast? == some '/' then dir ++ name
  else dir ++ "/" ++ name

/-- What follows the last point of a file name, if something stands before it. -/
def extension? (name : String) : Option String :=
  match (Text.splitOn '.' name.toList).reverse with
  | last :: first :: rest =>
    if first.isEmpty && rest.isEmpty then none else some (String.ofList last)
  | _ => none

/-- The ending of source files. -/
def sourceSuffix : List Char := ".py".toList

/-- A name without the ending of source files. -/
def stem (name : String) : String :=
  let cs := name.toList
  if sourceSuffix.isSuffixOf cs then String.ofList (cs.take (cs.length - sourceSuffix.length))
  else name

/-- The dotted name of the module in a file, for a path below the root package. -/
def moduleName (root path : String) : String :=
  ".".intercalate (root :: (steps path).filterMap fun
    | .down name => some (stem name)
    | _ => none)

end RefBook.Path
