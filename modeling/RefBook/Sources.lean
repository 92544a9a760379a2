import RefBook.Error
import RefBook.Glob.Parser
import RefBook.Text.Quoted
import RefBook.Tree

/-! The source files of a package. -/

namespace RefBook.Sources

inductive Problem
  | unnamedRoot (path : String)
  | badPattern (pattern : String)
  | io (path reason : String)
deriving DecidableEq, Repr

def Problem.message : Problem → String
  | .unnamedRoot path => "cannot derive a package name from " ++ path
  | .badPattern pattern =>
    "invalid exclude pattern " ++ String.ofList (Text.quoted pattern.toList) ++ ": " ++
      Glob.badPatternDetail
  | .io path reason => "IO error at " ++ path ++ ": " ++ reason

/-- The failure of a run that the problem causes. -/
def Problem.toError (p : Problem) : Error :=
  match p with
  | .unnamedRoot _ => .invalidArguments p.message
  | .badPattern _ => .config p.message
  | .io path reason => .io path reason

/-- The name of the package in a directory: that of the directory. -/
def packageName (t : Tree) (root : String) : Except Problem String :=
  match Path.fileName? root with
  | some name => .ok name
  | none =>
    match t.find root with
    | .error f => .error (.io root f.message)
    | .ok (place, _) =>
      match place.getLast? with
      | some name => .ok name
      | none => .error (.unnamedRoot root)

/-- The patterns with these written forms. -/
def exclusions (patterns : List String) : Except Problem (List Glob) :=
  patterns.mapM fun p =>
    match Glob.parse? p with
    | some g => .ok g
    | none => .error (.badPattern p)

def isExcluded (globs : List Glob) (path : String) : Bool := globs.any (·.isMatch path)

/-- Directories whose files are not part of a package. -/
def skippedNames : List String := ["__pycache__", "node_modules", "venv", "target"]

/-- Whether a file or directory of that name is passed over. -/
def isSkipped (name : String) : Bool :=
  name.toList.head? == some '.' || skippedNames.contains name

def isSource (name : String) : Bool := Path.extension? name == some "py"

/-- The path of a file below `root`, whose names are given. -/
def pathBelow (root : String) (names : Place) : String := names.foldl Path.join root

/-- The source files of the package in `root`, as paths below it and texts, in the
order of the paths. A root that is a file is the only one, with an empty path. -/
def collect (t : Tree) (root : String) (exclude : List String) :
    Except Problem (List (String × String)) := do
  let globs ← exclusions exclude
  match t.find root with
  | .error f =>
    .error (.io root ("IO error for operation on " ++ root ++ ": " ++ f.message))
  | .ok (place, _) =>
    let wanted := (t.filesBelow place).filter fun (names, _) =>
      isSource (names.getLast?.getD ((Path.fileName? root).getD "")) &&
        !names.any isSkipped && !isExcluded globs (Tree.key names)
    wanted.mapM fun (names, text) =>
      match text with
      | some text => .ok (Tree.key names, text)
      | none => .error (.io (pathBelow root names) Fault.notText.message)

end RefBook.Sources
