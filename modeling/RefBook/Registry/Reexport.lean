import RefBook.Registry.Basic

/-! Names that a module exports and imports from another one. The symbols behind
them are looked up in all modules as they were extracted, and only then added to
the modules that export them; so the order of the modules does not matter. -/

namespace RefBook

/-- An export from a module that is not registered. -/
structure UnknownModule where
  module : String
  exporter : String
  exported : String
  /-- The names of all registered modules. -/
  known : List String
deriving DecidableEq, Repr

namespace UnknownModule

def message (p : UnknownModule) : String :=
  "could not find module " ++ p.module ++ " or " ++ p.module ++ Module.packageSuffix ++
    " (exported as '" ++ p.exported ++ "' from " ++ p.exporter ++ ")"

/-- The failure of a run that the problem causes. -/
def toError (p : UnknownModule) : Error :=
  .unresolvedModule p.module p.exporter p.exported p.known

end UnknownModule

/-- An export whose module is registered but lacks the symbol. -/
structure Miss where
  exporter : String
  exported : String
  /-- Where the symbol was expected. -/
  target : String
deriving DecidableEq, Repr

structure Report where
  /-- How many symbols were added to the modules that export them. -/
  spliced : Nat
  misses : List Miss
deriving DecidableEq, Repr, Inhabited

/-- What becomes of one export. -/
inductive Resolution
  | found (s : Symbol)
  /-- Nothing is called like that where it is expected. -/
  | missing (target : String)
  /-- The name is defined in the module itself, or is that of a module. -/
  | skip

namespace Registry

/-- The registered modules that may define the target: the module itself, then the
package of that name. -/
def candidates (r : Registry) (t : Target) : List Module :=
  [t.module, t.module ++ Module.packageSuffix].filterMap r.get?

/-- How many names an import binds. -/
def bindingCount : Import → Nat
  | .whole _ _ => 1
  | .selected _ names _ => names.length

/-- How many names the imports of all modules bind. -/
def bindings (r : Registry) : Nat :=
  (r.toList.flatMap (·.imports)).foldl (fun n i => n + bindingCount i) 0

/-- The first of the candidates that knows the item, and what it means there. -/
def locate (r : Registry) (t : Target) : Option (Module × Symbol) :=
  (r.candidates t).findSome? fun m => (m.lookup t.item).map (m, ·)

/-- Follows imports from `item` in `m` to a definition, in at most `fuel` steps. The
names in `visited` are not followed again. -/
def followFrom (r : Registry) : (fuel : Nat) → (visited : List String) → Module → String →
    Option Symbol
  | 0, _, _, _ => none
  | fuel + 1, visited, m, item =>
    match m.resolveImport item with
    | none => none
    | some t =>
      if r.contains t.qualified || visited.contains t.qualified then none
      else
        match r.locate t with
        | some (next, .imported _) => r.followFrom fuel (t.qualified :: visited) next t.item
        | some (_, s) => some s
        | none => none

/-- Follows imports from `item` in `m` to a definition. Each step uses up another
binding of an import, so no chain is cut short. -/
def follow (r : Registry) (m : Module) (item : String) : Option Symbol :=
  r.followFrom (r.bindings + 1) [m.name ++ "." ++ item] m item

/-- What becomes of one export of `m`. -/
def resolveExport (r : Registry) (m : Module) (exported : String) :
    Except UnknownModule Resolution :=
  match m.resolveImport exported with
  | none => .ok .skip
  | some t =>
    if t.module == m.name || r.contains t.qualified then .ok .skip
    else if (r.candidates t).isEmpty then
      .error ⟨t.module, m.name, exported, r.names⟩
    else
      match r.locate t with
      | some (owner, s) =>
        .ok (.found (if s.isImport then (r.follow owner t.item).getD s else s))
      | none => .ok (.missing t.qualified)

/-- The exports of all modules, in the order of the modules' names. -/
def exports (r : Registry) : List (Module × String) :=
  r.toList.flatMap fun m => m.exports.map (m, ·)

/-- What becomes of each export, with the exporting module and the exported name. -/
def resolutions (r : Registry) : Except UnknownModule (List (Module × String × Resolution)) :=
  r.exports.mapM fun e => return (e.1, e.2, ← r.resolveExport e.1 e.2)

/-- Adds symbols to the modules of these names in turn, and counts those that were
not there before. -/
def splice (r : Registry) (symbols : List (String × Symbol)) : Registry × Nat :=
  symbols.foldl (fun (r, n) e => (r.push e.1 e.2, if r.grows e.1 e.2 then n + 1 else n)) (r, 0)

/-- Adds to each module the symbols that it exports from elsewhere. -/
def resolve (r : Registry) : Except UnknownModule (Registry × Report) := do
  let found ← r.resolutions
  let (resolved, spliced) := r.splice (found.filterMap fun
    | (m, _, .found s) => some (m.name, s)
    | _ => none)
  return (resolved, ⟨spliced, found.filterMap fun
    | (m, exported, .missing target) => some ⟨m.name, exported, target⟩
    | _ => none⟩)

end Registry

end RefBook
