import RefBook.Source.Expression

/-! The patterns of match statements. They declare nothing, so only their form
is read. -/

namespace RefBook.Source.Pattern

open RefBook.Source.Parser

def isNumber : Token → Bool
  | .int _ | .float _ | .imaginary => true
  | _ => false

def number : Parser Unit := do
  if isNumber (← advance) then return () else failure

/-- A number, perhaps negative, and perhaps with an imaginary part. -/
def numeric : Parser Unit := do
  let _ ← accept (.mark "-")
  number
  if (← accept (.mark "+")) || (← accept (.mark "-")) then number

/-- Attributes after a name; at least one is read if `needed`. -/
def attributes (limit : Nat) (needed : Bool) : Parser Unit := do
  if needed then
    expectMark "."
    let _ ← name
  repeatWhile (accept (.mark ".")) (fun _ => do let _ ← name) limit ()

def isSingleton : Token → Bool
  | .keyword w => w ∈ ["None", "True", "False"]
  | _ => false

def isString : Token → Bool
  | .string _ _ => true
  | _ => false

/-- Whether a pattern can start with the token. -/
def starts (t : Token) : Bool :=
  isName t || isNumber t || isSingleton t || isString t ||
    (match t with
      | .mark m => m ∈ ["-", "*", "(", "[", "\x7b"]
      | _ => false)

/-- A literal that stands for itself. -/
def literal (g : Grammar) : Parser Unit := do
  match ← peek with
  | some t =>
    if isSingleton t then
      let _ ← advance
    else if isString t then
      let _ ← strings g (← here)
    else numeric
  | none => failure

/-- A key of a mapping: a literal or an attribute of a name. -/
def key (g : Grammar) : Parser Unit := do
  if (← peek).any isName then
    let _ ← name
    attributes g.limit true
  else literal g

/-- The entries of a mapping up to the closing bracket; what is left over may be
given a name at the end. -/
def mappingItems (g : Grammar) : Nat → Parser Unit
  | 0 => return ()
  | limit + 1 => do
    if ← nextIs (.mark "\x7d") then return ()
    if ← accept (.mark "**") then
      let _ ← name
      let _ ← accept (.mark ",")
    else
      key g
      expectMark ":"
      g.pattern
      if ← accept (.mark ",") then mappingItems g limit

/-- The parts of a class pattern: those with a name come last. -/
def classItems (g : Grammar) : Nat → Bool → Parser Unit
  | 0, _ => return ()
  | limit + 1, named => do
    if ← nextIs (.mark ")") then return ()
    let isNamed ← do pure ((← peek).any isName && (← secondIs (.mark "=")))
    if isNamed then
      let _ ← name
      expectMark "="
      g.pattern
    else if named then failure
    else g.pattern
    if ← accept (.mark ",") then classItems g limit isNamed

/-- Patterns with commas between them, up to a closing bracket. -/
def sequence (g : Grammar) (closing : Token) : Parser Unit := do
  if !(← nextIs closing) then
    let _ ← commaList g.limit starts g.pattern
  expect closing

def closed (g : Grammar) : Parser Unit := do
  match ← peek with
  | some (.name _) =>
    let _ ← name
    attributes g.limit false
    if ← accept (.mark "(") then
      classItems g g.limit false
      expectMark ")"
  | some (.mark "*") =>
    let _ ← advance
    let _ ← name
  | some (.mark "(") =>
    let _ ← advance
    sequence g (.mark ")")
  | some (.mark "[") =>
    let _ ← advance
    sequence g (.mark "]")
  | some (.mark "\x7b") =>
    let _ ← advance
    mappingItems g g.limit
    expectMark "\x7d"
  | _ => literal g

/-- Alternatives, perhaps with a name for what was matched. -/
def pattern (g : Grammar) : Parser Unit := do
  closed g
  repeatWhile (accept (.mark "|")) (fun _ => closed g) g.limit ()
  if ← accept (.keyword "as") then
    if (← name) = "_" then failure

/-- The patterns of a case. -/
def patterns (g : Grammar) : Parser Unit := do
  let _ ← commaList g.limit starts (pattern g)

end RefBook.Source.Pattern
