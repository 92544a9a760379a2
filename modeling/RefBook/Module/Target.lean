import RefBook.Module.Basic
import RefBook.Text.Split

/-! Where an imported name comes from. -/

namespace RefBook

/-- An item and the dotted name of the module it is expected in. -/
structure Target where
  module : String
  item : String
deriving DecidableEq, Repr, Inhabited

def Target.qualified (t : Target) : String := t.module ++ "." ++ t.item

/-- The components of a dotted name. -/
def components (name : String) : List String :=
  (Text.splitOn '.' name.toList).map String.ofList

/-- A dotted name put together from its components. -/
def dotted (parts : List String) : String := ".".intercalate parts

namespace Module

/-- The components of the module's name without the last `n`. -/
def parentParts (m : Module) (n : Nat) : List String :=
  let parts := components m.name
  parts.take (parts.length - n)

/-- The module that a `from` import with `level` dots names. -/
def fromModule (m : Module) (module : Option String) (level : Nat) : String :=
  match module, level with
  | some name, 0 => name
  | some name, level => dotted (m.parentParts level ++ [name])
  | none, 0 => m.name
  | none, level + 1 => dotted (m.parentParts level)

/-- The text before the last point and the text after it. -/
def splitLast? (name : String) : Option (String × String) :=
  match (Text.splitOn '.' name.toList).reverse with
  | last :: rest@(_ :: _) =>
    some (String.ofList (Text.joinWith ['.'] rest.reverse), String.ofList last)
  | _ => none

/-- What the import makes of `name`, if it binds it. -/
def targetIn? (m : Module) (name : String) : Import → Option Target
  | .selected module names level =>
    (names.find? (·.bound == name)).map fun n => ⟨m.fromModule module level, n.name⟩
  | .whole module asName =>
    if asName.getD module == name then
      some (match splitLast? module with
        | some (parent, item) => ⟨parent, item⟩
        | none => ⟨module, name⟩)
    else none

/-- What the first import that binds `name` makes of it. -/
def resolveImport (m : Module) (name : String) : Option Target :=
  m.imports.findSome? (m.targetIn? name)

end Module

end RefBook
