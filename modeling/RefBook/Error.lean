/-! The ways a run can fail, with the text and the exit code of each. -/

namespace RefBook

inductive Error
  | invalidArguments (message : String)
  | config (message : String)
  | badSource (path message : String)
  | extractorGap (module message : String)
  | duplicateModule (name : String)
  /-- An export comes from a module that is not part of the run. -/
  | unresolvedModule (module exporter exported : String) (known : List String)
  | io (path reason : String)
  | internal (message : String)
deriving DecidableEq, Repr, Inhabited

namespace Error

def message : Error → String
  | invalidArguments message => "invalid arguments: " ++ message
  | config message => "configuration error: " ++ message
  | badSource path message => "syntax error in " ++ path ++ ": " ++ message
  | extractorGap module message => "unsupported syntax in " ++ module ++ ": " ++ message
  | duplicateModule name => "duplicate module name '" ++ name ++ "'"
  | unresolvedModule module exporter exported known =>
    "could not find module " ++ module ++ " or " ++ module ++ ".__init__ (exported as '" ++
      exported ++ "' from " ++ exporter ++ ") - known modules:\n" ++
      "\n".intercalate (known.map fun name => "\t\"" ++ name ++ "\"")
  | io path reason => "I/O error on " ++ path ++ ": " ++ reason
  | internal message => "internal error: " ++ message

/-- The exit code of a run that ends with the error. -/
def code : Error → Nat
  | invalidArguments _ | config _ => 2
  | badSource _ _ => 3
  | extractorGap _ _ => 4
  | duplicateModule _ | unresolvedModule _ _ _ _ => 5
  | io _ _ => 6
  | internal _ => 10

end Error

end RefBook
