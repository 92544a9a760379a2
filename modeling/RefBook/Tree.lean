import RefBook.Dict
import RefBook.Path

/-! The files that a run reads and writes, as a value. A file or directory is kept
under its place, the names that lead to it from the top of all files. -/

namespace RefBook

/-- Why a file cannot be read or written. -/
inductive Fault
  | notFound
  | notDirectory
  | isDirectory
  | exists
  /-- The bytes of a file are no text. -/
  | notText
deriving DecidableEq, Repr, Inhabited

def Fault.message : Fault → String
  | notFound => "No such file or directory (os error 2)"
  | notDirectory => "Not a directory (os error 20)"
  | isDirectory => "Is a directory (os error 21)"
  | .exists => "File exists (os error 17)"
  | notText => "stream did not contain valid UTF-8"

inductive Node
  | directory
  /-- A file with its text, if its bytes are one. -/
  | file (text : Option String)
deriving DecidableEq, Repr, Inhabited

/-- The names on the way from the top to a file. -/
abbrev Place := List String

/-- A place to start from. Its names are names of directories, and so have no slashes. -/
structure Base where
  place : Place
  no_slash : ∀ name ∈ place, '/' ∉ name.toList

/-- A text with slashes in it stands for the names between them. -/
def Base.ofPlace (place : Place) : Base where
  place := place.flatMap fun name => (Text.splitOn '/' name.toList).map String.ofList
  no_slash := by
    intro name h
    obtain ⟨_, -, h⟩ := List.mem_flatMap.mp h
    obtain ⟨piece, hp, rfl⟩ := List.mem_map.mp h
    rw [String.toList_ofList]
    exact Text.not_mem_of_mem_splitOn hp

instance : Coe Place Base := ⟨Base.ofPlace⟩

structure Tree where
  nodes : Dict Node
  /-- Where paths start that do not start at the top. -/
  base : Base

namespace Tree

def key (place : Place) : String := "/".intercalate place

/-- What is at a place; the top is always a directory. -/
def node? (t : Tree) (place : Place) : Option Node :=
  if place.isEmpty then some .directory else t.nodes.get? (key place)

def set (t : Tree) (place : Place) (n : Node) : Tree :=
  { t with nodes := t.nodes.insert (key place) n }

/-- Puts a node at a place, and directories on the way to it. -/
def plant (t : Tree) (place : Place) (n : Node) : Tree :=
  let ways := (List.range place.length).drop 1 |>.map place.take
  (ways.foldl (fun t way => if (t.node? way).isNone then t.set way .directory else t) t).set place n

/-- The tree of files that are given by their places below `base`. -/
def ofFiles (base : Place) (files : List (Place × Node)) : Tree :=
  files.foldl (fun t f => t.plant (base ++ f.1) f.2)
    (if base.isEmpty then ⟨.empty, base⟩ else plant ⟨.empty, base⟩ base .directory)

def move (place : Place) : Path.Step → Place
  | .top => []
  | .here => place
  | .up => place.dropLast
  | .down name => place ++ [name]

/-- Where steps lead. Each but the last has to lead into a directory. -/
def walk (t : Tree) : Place → List Path.Step → Except Fault Place
  | place, [] => .ok place
  | place, s :: steps =>
    match t.node? place with
    | none => .error .notFound
    | some (.file _) => .error .notDirectory
    | some .directory => walk t (move place s) steps

/-- Whether a path ends in a slash, so that it can only name a directory. -/
def namesDirectory (path : String) : Bool := path.toList.getLast? == some '/'

/-- Where a path leads, and what is there. -/
def find (t : Tree) (path : String) : Except Fault (Place × Node) := do
  if path.isEmpty then .error .notFound
  let place ← t.walk t.base.place (Path.allSteps path)
  match t.node? place with
  | none => .error .notFound
  | some (.file text) =>
    if namesDirectory path then .error .notDirectory else return (place, .file text)
  | some .directory => return (place, .directory)

def contains (t : Tree) (path : String) : Bool := (t.find path).isOk

/-- The text of the file that a path leads to. -/
def read (t : Tree) (path : String) : Except Fault String := do
  match (← t.find path).2 with
  | .directory => .error .isDirectory
  | .file none => .error .notText
  | .file (some text) => return text

/-- Writes a file into a directory that is there. -/
def write (t : Tree) (path text : String) : Except Fault Tree := do
  let place ← t.walk t.base.place (Path.allSteps path)
  if path.isEmpty then .error .notFound
  else if t.node? place == some .directory || namesDirectory path then .error .isDirectory
  else return t.set place (.file (some text))

/-- Makes the directory that steps lead to, inside one that is there. -/
def makeDirectory (t : Tree) (steps : List Path.Step) : Except Fault Tree := do
  let parent ← t.walk t.base.place (steps.dropLast ++ [.here])
  match steps.getLast? with
  | some (.down name) =>
    match t.node? (parent ++ [name]) with
    | some _ => .error .exists
    | none => return t.set (parent ++ [name]) .directory
  | _ => .error .exists

/-- Whether steps lead to a directory. -/
def isDirectory (t : Tree) (steps : List Path.Step) : Bool :=
  match t.walk t.base.place steps with
  | .ok place => t.node? place == some .directory
  | .error _ => false

/-- Makes a directory, if need be after what `parents` makes, unless it is there. -/
def ensure (t : Tree) (steps : List Path.Step) (parents : Tree → Except Fault Tree) :
    Except Fault Tree :=
  let accept (t : Tree) (r : Except Fault Tree) : Except Fault Tree :=
    match r with
    | .ok t => .ok t
    | .error f => if t.isDirectory steps then .ok t else .error f
  match t.makeDirectory steps with
  | .error .notFound => do
    let t ← parents t
    accept t (t.makeDirectory steps)
  | r => accept t r

/-- Makes the directory that the steps lead to, given backwards, and all on the way. -/
def ensureAll : List Path.Step → Tree → Except Fault Tree
  | [], t => .ok t
  | s :: before, t => t.ensure (s :: before).reverse (ensureAll before)

/-- Makes a directory and those on the way to it, where they are not there. -/
def createDirectories (t : Tree) (path : String) : Except Fault Tree :=
  t.ensure (Path.allSteps path) (ensureAll ((Path.steps path).reverse.drop 1))

/-- The files below a place, by the names that lead to them from there. -/
def filesBelow (t : Tree) (place : Place) : List (Place × Option String) :=
  t.nodes.entries.filterMap fun
    | (k, .file text) =>
      let names := (Text.splitOn '/' k.toList).map String.ofList
      if place.isPrefixOf names then some (names.drop place.length, text) else none
    | (_, .directory) => none

/-- The files of `after` that are new or differ from those of `before`. -/
def changes (before after : Tree) : List (Place × String) :=
  (after.filesBelow []).filterMap fun (place, text) =>
    if before.node? place == some (.file text) then none else text.map (place, ·)

end Tree

end RefBook
