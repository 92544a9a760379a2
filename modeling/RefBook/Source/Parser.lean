import RefBook.Source.Tree

/-! Reading trees from tokens. A parser reads tokens from the front of a list and
knows where the last one it read ends; which way to go is told by the next one
or two tokens. -/

namespace RefBook.Source

structure State where
  rest : List Lexeme
  /-- Where the last token that was read ends. -/
  last : Nat

abbrev Parser := StateT State Option

namespace Parser

def peek : Parser (Option Token) := fun s => some (s.rest.head?.map (·.token), s)

/-- The token after the next one. -/
def peekSecond : Parser (Option Token) := fun s => some ((s.rest.drop 1).head?.map (·.token), s)

/-- Where the next token starts. -/
def here : Parser Nat := fun s => some ((s.rest.head?.map (·.span.start)).getD s.last, s)

def advance : Parser Token := fun s =>
  match s.rest with
  | [] => none
  | l :: rest => some (l.token, ⟨rest, l.span.stop⟩)

def nextIs (t : Token) : Parser Bool := return (← peek) == some t

def secondIs (t : Token) : Parser Bool := return (← peekSecond) == some t

/-- Reads the token if it comes next. -/
def accept (t : Token) : Parser Bool := do
  if ← nextIs t then
    let _ ← advance
    return true
  else return false

def expect (t : Token) : Parser Unit := do
  if (← advance) == t then return () else failure

def expectMark (sign : String) : Parser Unit := expect (.mark sign)

def expectWord (word : String) : Parser Unit := expect (.keyword word)

def name : Parser String := do
  match ← advance with
  | .name id => return id
  | _ => failure

/-- The span from `start` to the end of what has been read. -/
def spanFrom (start : Nat) : Parser Span := return ⟨start, (← get).last⟩

/-- Repeats a step as long as `more` says, at most `limit` times. -/
def repeatWhile {α : Type} (more : Parser Bool) (step : α → Parser α) : Nat → α → Parser α
  | 0, a => return a
  | limit + 1, a => do
    if ← more then repeatWhile more step limit (← step a) else return a

/-- The items after the first of a list; a comma ends the list if no item can
start after it. The items are gathered in reverse. -/
def commaRest {α : Type} (starts : Token → Bool) (item : Parser α) :
    Nat → List α → Parser (List α × Bool)
  | 0, items => return (items.reverse, false)
  | limit + 1, items => do
    if ← accept (.mark ",") then
      if (← peek).any starts then commaRest starts item limit ((← item) :: items)
      else return (items.reverse, true)
    else return (items.reverse, false)

/-- One or more items with commas between them, and whether a comma ends them. -/
def commaList {α : Type} (limit : Nat) (starts : Token → Bool) (item : Parser α) :
    Parser (List α × Bool) := do
  commaRest starts item limit [← item]

/-- One or more items with commas between them only. -/
def commaList1 {α : Type} (limit : Nat) (item : Parser α) : Parser (List α) := do
  let (items, trailing) ← commaList limit (fun _ => true) item
  if trailing then failure else return items

end Parser

def isName : Token → Bool
  | .name _ => true
  | _ => false

/-- Whether an expression can start with the token. -/
def startsTest : Token → Bool
  | .name _ | .int _ | .float _ | .imaginary | .string _ _ => true
  | .keyword w => w ∈ ["None", "True", "False", "not", "lambda", "await"]
  | .mark m => m ∈ ["(", "[", "\x7b", "+", "-", "~", "..."]
  | _ => false

/-- Whether an expression, perhaps with a star, can start with the token. -/
def startsStarTest (t : Token) : Bool := startsTest t || t == .mark "*"

/-- The parsers for what may be nested in brackets and blocks, and how often a
part may be repeated. -/
structure Grammar where
  limit : Nat
  test : Parser Expr
  orTest : Parser Expr
  notTest : Parser Expr
  expr : Parser Expr
  factor : Parser Expr
  pattern : Parser Unit
  suite : Parser (List Stmt)
  /-- Whether a text is an expression. -/
  isExpression : List Char → Bool

end RefBook.Source
