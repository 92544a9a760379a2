import RefBook.Literal
import RefBook.Source.Tree
import RefBook.Text.OneLine

/-! What is read off an expression: its text, the literal it is, the names it
exports, and the decorator it makes. -/

namespace RefBook.Extract

open Source (Expr Constant)

/-- The source text of an expression, on one line. -/
def exprText (source : List Char) (e : Expr) : String :=
  String.ofList (Text.oneLine ((source.drop e.span.start).take (e.span.stop - e.span.start)))

/-- Whole numbers from here on are not literals. -/
def intLimit : Nat := Nat.pow 2 127

def constantLiteral? : Constant → Option Literal
  | .none => some .none
  | .bool b => some (.bool b)
  | .int n => if n < intLimit then some (.int n) else none
  | .float x => some (.float x)
  | .complex => none
  | .str s => some (.str (String.ofList s))
  | .bytes b => some (.bytes b)
  | .ellipsis => some .ellipsis

/-- A negative number, if the literal is a number. -/
def negated? : Literal → Option Literal
  | .int n => some (.int (-n))
  | .float x => some (.float x.neg)
  | _ => none

mutual

/-- The literal that an expression is. -/
def literal? : Expr → Option Literal
  | .constant _ c => constantLiteral? c
  | .tuple _ items => (literals? items).map .tuple
  | .list _ items => (literals? items).map .list
  | .unary _ .minus operand => (literal? operand).bind negated?
  | _ => none

def literals? : List Expr → Option (List Literal)
  | [] => some []
  | e :: es => do return (← literal? e) :: (← literals? es)

end

/-- The texts among the items of an export list. -/
def stringItems (items : List Expr) : List String :=
  items.filterMap fun
    | .constant _ (.str s) => some (String.ofList s)
    | _ => none

/-- The names that a list of exports holds: the texts in lists and tuples, and
those of both sides of a sum. -/
def exportNames : Expr → List String
  | .list _ items | .tuple _ items => stringItems items
  | .binary _ .add left right => exportNames left ++ exportNames right
  | _ => []

/-- The name and value of an argument, unless it has no name or is no literal. -/
def keywordLiteral? (keyword : Option String × Expr) : Option (String × Literal) := do
  return (← keyword.1, ← literal? keyword.2)

def keywordLiterals? (keywords : List (Option String × Expr)) : Option (Dict Literal) :=
  (keywords.mapM keywordLiteral?).map Dict.ofList

def decorator (source : List Char) (e : Expr) : Decorator :=
  match e with
  | .call _ func args keywords =>
    let name := exprText source func
    match literals? args, keywordLiterals? keywords with
    | some args, some kwargs => ⟨name, some args, some kwargs⟩
    | _, _ => .bare name
  | e => .bare (exprText source e)

end RefBook.Extract
