/-! Documents of keys and values, and how headers and dotted keys build them up. -/

namespace RefBook.Toml

/-- How a table came to be. -/
inductive Origin
  /-- It has a header of its own. -/
  | header
  /-- It is on the way to a table with a header. -/
  | implied
  /-- It is on the way of a dotted key. -/
  | dotted
deriving DecidableEq, Repr, Inhabited

/-- What a key stands for. Numbers with a fraction and points in time are told
apart from the rest, and their values are not kept. -/
inductive Item
  | text (s : String)
  | int (n : Int)
  | float
  | bool (b : Bool)
  | moment
  | array (items : List Item)
  /-- A table written as a value, which nothing can be added to. -/
  | inline (entries : List (String × Item))
  | table (origin : Origin) (entries : List (String × Item))
  /-- Tables under one header that occurs several times. -/
  | rows (earlier : List (List (String × Item))) (latest : List (String × Item))
deriving Inhabited

abbrev Entries := List (String × Item)

namespace Entries

def get? (t : Entries) (key : String) : Option Item := (t.find? (·.1 == key)).map (·.2)

/-- Replaces what a key stands for, or adds the key at the end. -/
def update (key : String) (f : Option Item → Option Item) : Entries → Option Entries
  | [] => (f none).map fun i => [(key, i)]
  | (k, i) :: t =>
    if k = key then (f (some i)).map fun i => (k, i) :: t
    else (update key f t).map ((k, i) :: ·)

/-- Changes the table that a path leads to. Tables on the way that are not there are
made; of tables with one header several times the latest is taken. A dotted key
does not lead into a table with a header of its own. -/
def alter (isDotted : Bool) (f : Origin → Entries → Option Entries) :
    (path : List String) → Origin → Entries → Option Entries
  | [], origin, t => f origin t
  | key :: path, _, t => t.update key fun
    | none =>
      let made := if isDotted then Origin.dotted else .implied
      (alter isDotted f path made []).map (.table made)
    | some (.table origin t) =>
      if isDotted && origin == .header then none
      else (alter isDotted f path origin t).map (.table origin)
    | some (.rows earlier latest) =>
      (alter isDotted f path .header latest).map (.rows earlier)
    | some _ => none

/-- Adds a key that a path of other keys leads to. Each key is given once, and a
dotted key adds to no table but one of dotted keys. -/
def add (t : Entries) (path : List String) (key : String) (i : Item) : Option Entries :=
  t.alter true (fun origin t =>
    if (origin == .dotted) == path.isEmpty || (t.get? key).isSome then none
    else some (t ++ [(key, i)])) path .header

/-- Starts a table by its header. -/
def startTable (t : Entries) (path : List String) (key : String) : Option Entries :=
  t.alter false (fun _ t => t.update key fun
    | none => some (.table .header [])
    | some (.table .implied t) => some (.table .header t)
    | some _ => none) path .header

/-- Starts the next of several tables by their header. -/
def startRow (t : Entries) (path : List String) (key : String) : Option Entries :=
  t.alter false (fun _ t => t.update key fun
    | none => some (.rows [] [])
    | some (.rows earlier latest) => some (.rows (earlier ++ [latest]) [])
    | some _ => none) path .header

end Entries

end RefBook.Toml
