import RefBook.Module.Target
import RefBook.Page.Options

/-! The table of contents: the public modules as a tree over the components of
their names, each level in order. -/

namespace RefBook

/-- A row of trees. A tree is a name component, whether a page stands there, and
the trees below it; the rest are the trees beside it. -/
inductive Contents
  | nil
  | cons (segment : String) (page : Bool) (below beside : Contents)
deriving DecidableEq, Repr, Inhabited

namespace Contents

/-- Marks a page at the end of the path. -/
def insert : List String → Contents → Contents
  | [], c => c
  | s :: path, nil => cons s path.isEmpty (insert path nil) nil
  | s :: path, cons t page below beside =>
    if s = t then cons t (page || path.isEmpty) (insert path below) beside
    else if s < t then cons s path.isEmpty (insert path nil) (cons t page below beside)
    else cons t page below (insert (s :: path) beside)
termination_by path c => (path.length, c)

/-- The line of a page: its last component, with a link to its file. -/
def entryLine (level : Nat) (segment path : String) : String :=
  String.ofList (List.replicate (2 * level) ' ') ++ "- [`" ++ segment ++ "`](" ++ path ++ ".md)\n\n"

/-- A path one component longer. -/
def extendPath (path segment : String) : String :=
  if path.isEmpty then segment else path ++ "." ++ segment

/-- The lines of all pages, each tree indented below its parent. -/
def renderFrom (level : Nat) (path : String) : Contents → String
  | nil => ""
  | cons segment page below beside =>
    let here := extendPath path segment
    (if page then entryLine level segment here else "") ++
      renderFrom (level + 1) here below ++ renderFrom level path beside

/-- The path of a module in the tree, if no component of it is private. -/
def pathOf? (module : String) : Option (List String) :=
  let path := components (Module.displayNameOf module)
  if path.any isPrivate then none else some path

def ofNames (modules : List String) : Contents :=
  (modules.filterMap pathOf?).foldl (fun c path => c.insert path) nil

/-- The table of contents of the modules. -/
def render (modules : List String) : String := renderFrom 0 "" (ofNames modules)

end Contents

end RefBook
