import RefBook.Page.Options

/-! The call of a function as a page shows it: its parameters on one line, or
each on its own where the names get too wide. -/

namespace RefBook.Page

/-- A parameter as in a source text, with `stars` before its name. -/
def paramText (stars : String) (p : Parameter) : String :=
  let name := stars ++ p.name
  match p.type, p.default with
  | some a, some d => name ++ ": " ++ a ++ " = " ++ d
  | some a, none => name ++ ": " ++ a
  | none, some d => name ++ "=" ++ d
  | none, none => name

/-- The starred parameter, or the lone star that parameters passed by name only
need before them. -/
def starText (f : Function) : List String :=
  match f.varPositional with
  | some p => [paramText "*" p]
  | none => if f.kwonlyParams.isEmpty then [] else ["*"]

/-- All parameters of a call in order of declaration. -/
def callParams (f : Function) : List String :=
  f.params.map (paramText "") ++ starText f ++ f.kwonlyParams.map (paramText "") ++
    (f.varKeyword.map (paramText "**")).toList

/-- The names of all parameters, which are what the width is measured by. -/
def paramNames (f : Function) : List String :=
  (f.params ++ f.varPositional.toList ++ f.kwonlyParams ++ f.varKeyword.toList).map (·.name)

def returnsText (f : Function) : String := f.returns.elim "" (" -> " ++ ·)

/-- The measured width of a call: name, parameter names and result, in bytes. -/
def callWidth (f : Function) : Nat :=
  f.name.utf8ByteSize + (", ".intercalate (paramNames f)).utf8ByteSize +
    (returnsText f).utf8ByteSize

/-- The parameters between the brackets of a call. -/
def paramsText (width : Nat) (f : Function) : String :=
  if width < callWidth f then "\n    " ++ ",\n    ".intercalate (callParams f) ++ ",\n"
  else ", ".intercalate (callParams f)

/-- The call in a fenced block, below its decorators. -/
def callText (width : Nat) (f : Function) : String :=
  "```python\n" ++ String.join (f.decorators.map fun d => d.text ++ "\n") ++
    (if f.isAsync then "async " else "") ++
    "def " ++ f.name ++ "(" ++ paramsText width f ++ ")" ++ returnsText f ++ "\n```\n\n"

end RefBook.Page
