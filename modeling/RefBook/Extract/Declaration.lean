import RefBook.Extract.Problem
import RefBook.Extract.Value
import RefBook.Module.Basic
import RefBook.Text.Margin

/-! Functions and classes as they are declared. -/

namespace RefBook.Extract

open Source (Expr Constant Stmt Params Shape)

/-- The file that declarations are read from. -/
structure Context where
  /-- The name of the module. -/
  module : String
  source : List Char

/-- The documentation of a body: its first statement, if that is a text. -/
def docstring? : List Stmt → Option String
  | .expr (.constant _ (.str t)) :: _ => some (String.ofList (Text.clean t))
  | _ => none

/-- Whether a default of a parameter passed by name only can be shown. -/
def showsDefault : Expr → Bool
  | .shaped _ shape => shape ∈ [Shape.lambda, .set, .dict, .subscript]
  | .starred _ _ => false
  | _ => true

def defaultText (c : Context) (e : Expr) : String :=
  match e with
  | .shaped _ .lambda => "<lambda ...>"
  | e => exprText c.source e

/-- A parameter passed by name only; its default is shown or refused. -/
def kwonlyParam (c : Context) (function : String) (p : Source.Param) :
    Except Problem Parameter :=
  let type := p.type.map (exprText c.source)
  match p.default with
  | none => .ok ⟨p.name, type, none⟩
  | some e =>
    if showsDefault e then .ok ⟨p.name, type, some (defaultText c e)⟩
    else .error (.unsupportedDefault c.module function p.name e.kindName)

/-- Whether the type of a result can be shown. -/
def showsReturn : Expr → Bool
  | .name _ _ | .constant _ _ | .attribute _ _ _ | .tuple _ _ | .binary _ _ _ _ => true
  | .shaped _ shape => shape = .subscript
  | _ => false

/-- The type of a result; one written as a text is that text. -/
def returnText (c : Context) : Expr → String
  | .constant _ (.str t) => String.ofList t
  | e => exprText c.source e

def returns (c : Context) (function : String) : Option Expr → Except Problem (Option String)
  | none => .ok none
  | some e =>
    if showsReturn e then .ok (some (returnText c e))
    else .error (.unsupportedReturn c.module function e.kindName)

def positionalParam (c : Context) (p : Source.Param) : Parameter :=
  ⟨p.name, p.type.map (exprText c.source), p.default.map (exprText c.source)⟩

/-- A starred parameter, which has no default. -/
def starredParam (c : Context) (p : Source.Param) : Parameter :=
  ⟨p.name, p.type.map (exprText c.source), none⟩

/-- The names by which methods call what they are called on. -/
def receiverNames : List String := ["self", "cls"]

def function (c : Context) (isMethod isAsync : Bool) (name : String) (params : Params)
    (result : Option Expr) (decorators : List Expr) (body : List Stmt) :
    Except Problem Function := do
  let positional := (params.posonly ++ params.args).map (positionalParam c)
  let kwonly ← params.kwonly.mapM (kwonlyParam c name)
  let result ← returns c name result
  return {
    name
    params := positional
    kwonlyParams := kwonly
    varPositional := params.vararg.map (starredParam c)
    varKeyword := params.kwarg.map (starredParam c)
    returns := result
    docstring := docstring? body
    decorators := decorators.map (decorator c.source)
    isAsync
    receiver := isMethod && positional.head?.any (fun p => decide (p.name ∈ receiverNames)) }

/-- The attributes that a class body declares with a type. -/
def attributes (c : Context) (body : List Stmt) : List Attribute :=
  body.filterMap fun
    | .annAssign (.name _ id) type value =>
      some ⟨id, exprText c.source type, value.map (exprText c.source)⟩
    | _ => none

/-- The methods that a class body declares. -/
def methods (c : Context) : List Stmt → Except Problem (List Function)
  | [] => .ok []
  | .function isAsync name params result decorators body :: rest => do
    let f ← function c true isAsync name params result decorators body
    return f :: (← methods c rest)
  | _ :: rest => methods c rest

def classOf (c : Context) (name : String) (bases decorators : List Expr) (body : List Stmt) :
    Except Problem Class := do
  let methods ← methods c body
  return {
    name
    bases := bases.map (exprText c.source)
    attributes := attributes c body
    methods
    decorators := decorators.map (decorator c.source)
    docstring := docstring? body }

end RefBook.Extract
