import RefBook.Source.Token

/-! Source texts as trees. Of an expression the tree keeps what a reader of
declarations looks at; the rest is told by its shape and its span. -/

namespace RefBook.Source

inductive Constant
  | none
  | bool (value : Bool)
  | int (value : Nat)
  | float (value : Binary64)
  | complex
  | str (value : List Char)
  | bytes (value : List UInt8)
  | ellipsis
deriving DecidableEq, Repr, Inhabited

inductive UnaryOp
  | not
  | minus
  | plus
  | invert
deriving DecidableEq, Repr, Inhabited

inductive BinaryOp
  | add
  /-- Any operator other than addition. -/
  | other
deriving DecidableEq, Repr, Inhabited

/-- The shapes of expressions whose parts are not kept. -/
inductive Shape
  | boolOp
  | namedExpr
  | lambda
  | ifExp
  | dict
  | set
  | listComp
  | setComp
  | dictComp
  | generatorExp
  | await
  | yield
  | yieldFrom
  | compare
  | joinedStr
  | subscript
  | slice
deriving DecidableEq, Repr, Inhabited

/-- The name of a shape in a diagnostic. -/
def Shape.name : Shape → String
  | .boolOp => "BoolOp"
  | .namedExpr => "NamedExpr"
  | .lambda => "Lambda"
  | .ifExp => "IfExp"
  | .dict => "Dict"
  | .set => "Set"
  | .listComp => "ListComp"
  | .setComp => "SetComp"
  | .dictComp => "DictComp"
  | .generatorExp => "GeneratorExp"
  | .await => "Await"
  | .yield => "Yield"
  | .yieldFrom => "YieldFrom"
  | .compare => "Compare"
  | .joinedStr => "JoinedStr"
  | .subscript => "Subscript"
  | .slice => "Slice"

inductive Expr
  | constant (span : Span) (value : Constant)
  | name (span : Span) (id : String)
  | attribute (span : Span) (value : Expr) (attr : String)
  /-- A keyword without a name unpacks a mapping. -/
  | call (span : Span) (func : Expr) (args : List Expr) (keywords : List (Option String × Expr))
  | tuple (span : Span) (items : List Expr)
  | list (span : Span) (items : List Expr)
  | unary (span : Span) (op : UnaryOp) (operand : Expr)
  | binary (span : Span) (op : BinaryOp) (left right : Expr)
  | starred (span : Span) (value : Expr)
  | shaped (span : Span) (shape : Shape)
deriving Inhabited, Repr

namespace Expr

def span : Expr → Span
  | .constant s _ | .name s _ | .attribute s _ _ | .call s _ _ _ | .tuple s _ | .list s _
  | .unary s _ _ | .binary s _ _ _ | .starred s _ | .shaped s _ => s

/-- The name of the kind of an expression in a diagnostic. -/
def kindName : Expr → String
  | .constant _ _ => "Constant"
  | .name _ _ => "Name"
  | .attribute _ _ _ => "Attribute"
  | .call _ _ _ _ => "Call"
  | .tuple _ _ => "Tuple"
  | .list _ _ => "List"
  | .unary _ _ _ => "UnaryOp"
  | .binary _ _ _ _ => "BinOp"
  | .starred _ _ => "Starred"
  | .shaped _ shape => shape.name

def isStarred : Expr → Bool
  | .starred _ _ => true
  | _ => false

end Expr

structure Param where
  name : String
  type : Option Expr
  default : Option Expr
deriving Inhabited, Repr

/-- The parameters of a function by the ways they are passed. -/
structure Params where
  posonly : List Param
  args : List Param
  vararg : Option Param
  kwonly : List Param
  kwarg : Option Param
deriving Inhabited, Repr

def Params.none : Params := ⟨[], [], .none, [], .none⟩

/-- A name in an import, and the name it is bound to. -/
structure Alias where
  name : String
  asname : Option String
deriving DecidableEq, Repr, Inhabited

inductive Stmt
  | function (isAsync : Bool) (name : String) (params : Params) (returns : Option Expr)
      (decorators : List Expr) (body : List Stmt)
  | class (name : String) (bases : List Expr) (decorators : List Expr) (body : List Stmt)
  | assign (targets : List Expr) (value : Expr)
  | annAssign (target type : Expr) (value : Option Expr)
  | augAssign (target : Expr) (op : BinaryOp) (value : Expr)
  | typeAlias (name value : Expr)
  | importWhole (names : List Alias)
  | importFrom (module : Option String) (names : List Alias) (level : Nat)
  | ifElse (body orelse : List Stmt)
  | tryExcept (body : List Stmt) (handlers : List (List Stmt)) (orelse final : List Stmt)
  /-- A loop, and what is run when it has ended. -/
  | loop (body orelse : List Stmt)
  /-- What is run inside contexts that are entered for it. -/
  | inContext (body : List Stmt)
  | matchCases (blocks : List (List Stmt))
  | expr (value : Expr)
  /-- A statement without blocks that declares nothing. -/
  | other
deriving Inhabited, Repr

end RefBook.Source
