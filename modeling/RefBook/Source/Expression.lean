import RefBook.Source.Parameters
import RefBook.Source.Strings

/-! The expressions, from atoms up to lists with commas. Brackets around an
expression do not belong to it, but those of a tuple do. -/

namespace RefBook.Source

open RefBook.Source.Parser

/-- Whether `name :=` comes next. -/
def startsNamed : Parser Bool := do
  return (← peek).any isName && (← secondIs (.mark ":="))

/-- An expression, or a name that is given the value of one. -/
def namedTest (test : Parser Expr) : Parser Expr := do
  if ← startsNamed then
    let start ← here
    let _ ← name
    expectMark ":="
    let _ ← test
    return .shaped (← spanFrom start) .namedExpr
  else test

/-- A star and an operand. -/
def starExpr (operand : Parser Expr) : Parser Expr := do
  let start ← here
  expectMark "*"
  let value ← operand
  return .starred (← spanFrom start) value

def testOrStar (test operand : Parser Expr) : Parser Expr := do
  if ← nextIs (.mark "*") then starExpr operand else test

def namedOrStar (test operand : Parser Expr) : Parser Expr := do
  if ← nextIs (.mark "*") then starExpr operand else namedTest test

/-- A tuple without brackets, or its only item where no comma follows it. -/
def tupleOf (limit : Nat) (item : Parser Expr) : Parser Expr := do
  let start ← here
  let (items, trailing) ← commaList limit startsStarTest item
  match items, trailing with
  | [e], false => return e
  | _, _ => return .tuple (← spanFrom start) items

def testListOf (limit : Nat) (test operand : Parser Expr) : Parser Expr :=
  tupleOf limit (testOrStar test operand)

def startsFor : Parser Bool := do
  return (← nextIs (.keyword "for")) || (← nextIs (.keyword "async"))

/-- One `for` of a comprehension, with its conditions. -/
def forClause (g : Grammar) : Parser Unit := do
  let _ ← accept (.keyword "async")
  expectWord "for"
  let _ ← tupleOf g.limit (testOrStar g.expr g.expr)
  expectWord "in"
  let _ ← g.orTest
  repeatWhile (nextIs (.keyword "if")) (fun _ => do
    expectWord "if"
    let _ ← g.orTest) g.limit ()

def forClauses (g : Grammar) : Parser Unit := do
  forClause g
  repeatWhile startsFor (fun _ => forClause g) g.limit ()

def yieldExprOf (limit : Nat) (test operand : Parser Expr) : Parser Expr := do
  let start ← here
  expectWord "yield"
  if ← accept (.keyword "from") then
    let _ ← test
    return .shaped (← spanFrom start) .yieldFrom
  else
    if (← peek).any startsStarTest then
      let _ ← testListOf limit test operand
    return .shaped (← spanFrom start) .yield

/-- What follows an opening round bracket: nothing, a value to yield, a
comprehension, a tuple, or an expression that the brackets only group. -/
def groupTail (g : Grammar) (start : Nat) : Parser Expr := do
  if ← accept (.mark ")") then return .tuple (← spanFrom start) []
  if ← nextIs (.keyword "yield") then
    let e ← yieldExprOf g.limit g.test g.expr
    expectMark ")"
    return e
  let first ← namedOrStar g.test g.expr
  if !first.isStarred && (← startsFor) then
    forClauses g
    expectMark ")"
    return .shaped (← spanFrom start) .generatorExp
  let (items, trailing) ←
    commaRest startsStarTest (namedOrStar g.test g.expr) g.limit [first]
  expectMark ")"
  match items, trailing with
  | [e], false => if e.isStarred then failure else return e
  | _, _ => return .tuple (← spanFrom start) items

/-- What follows an opening square bracket. -/
def listTail (g : Grammar) (start : Nat) : Parser Expr := do
  if ← accept (.mark "]") then return .list (← spanFrom start) []
  let first ← namedOrStar g.test g.expr
  if ← startsFor then
    forClauses g
    expectMark "]"
    return .shaped (← spanFrom start) .listComp
  let (items, _) ← commaRest startsStarTest (namedOrStar g.test g.expr) g.limit [first]
  expectMark "]"
  return .list (← spanFrom start) items

/-- An entry of a dictionary, or a dictionary to take over. -/
def dictItem (g : Grammar) : Parser Unit := do
  if ← accept (.mark "**") then
    let _ ← g.expr
  else
    let _ ← g.test
    expectMark ":"
    let _ ← g.test

def startsDictItem (t : Token) : Bool := startsTest t || t == .mark "**"

/-- The rest of a dictionary after its first item. -/
def dictTail (g : Grammar) (start : Nat) : Parser Expr := do
  let _ ← commaRest startsDictItem (dictItem g) g.limit [()]
  expectMark "\x7d"
  return .shaped (← spanFrom start) .dict

/-- What follows an opening curly bracket. -/
def braceTail (g : Grammar) (start : Nat) : Parser Expr := do
  if ← accept (.mark "\x7d") then return .shaped (← spanFrom start) .dict
  if ← nextIs (.mark "**") then
    dictItem g
    dictTail g start
  else
    let named ← startsNamed
    let first ← namedOrStar g.test g.expr
    if !named && !first.isStarred && (← accept (.mark ":")) then
      let _ ← g.test
      if ← startsFor then
        forClauses g
        expectMark "\x7d"
        return .shaped (← spanFrom start) .dictComp
      else dictTail g start
    else if !first.isStarred && (← startsFor) then
      forClauses g
      expectMark "\x7d"
      return .shaped (← spanFrom start) .setComp
    else
      let _ ← commaRest startsStarTest (namedOrStar g.test g.expr) g.limit [first]
      expectMark "\x7d"
      return .shaped (← spanFrom start) .set

/-- Strings that stand side by side, gathered in reverse. -/
def stringPieces : Nat → List (StringKind × List Char) → Parser (List (StringKind × List Char))
  | 0, pieces => return pieces.reverse
  | limit + 1, pieces => do
    match ← peek with
    | some (.string kind body) =>
      let _ ← advance
      stringPieces limit ((kind, body) :: pieces)
    | _ => return pieces.reverse

def strings (g : Grammar) (start : Nat) : Parser Expr := do
  let pieces ← stringPieces g.limit []
  let span ← spanFrom start
  match stringsExpr? g.isExpression span pieces with
  | some e => return e
  | none => failure

def constant (start : Nat) (value : Constant) : Parser Expr :=
  return .constant (← spanFrom start) value

def atom (g : Grammar) : Parser Expr := do
  let start ← here
  match ← peek with
  | some (.string _ _) => strings g start
  | _ =>
    match ← advance with
    | .name id => return .name (← spanFrom start) id
    | .int n => constant start (.int n)
    | .float x => constant start (.float x)
    | .imaginary => constant start .complex
    | .keyword "None" => constant start .none
    | .keyword "True" => constant start (.bool true)
    | .keyword "False" => constant start (.bool false)
    | .mark "..." => constant start .ellipsis
    | .mark "(" => groupTail g start
    | .mark "[" => listTail g start
    | .mark "\x7b" => braceTail g start
    | _ => failure

/-- The arguments of a call read so far, in reverse. -/
structure Arguments where
  args : List Expr
  keywords : List (Option String × Expr)

/-- One more argument. A plain one does not follow one with a name, and a
starred one does not follow a mapping to unpack; no name is given twice. -/
def argument (g : Grammar) (a : Arguments) : Parser Arguments := do
  if ← accept (.mark "**") then
    let value ← g.test
    return { a with keywords := (none, value) :: a.keywords }
  else if (← peek).any isName && (← secondIs (.mark "=")) then
    let id ← name
    expectMark "="
    let value ← g.test
    if a.keywords.any (·.1 == some id) then failure
    return { a with keywords := (some id, value) :: a.keywords }
  else
    let start ← here
    if ← accept (.mark "*") then
      let value ← g.test
      if a.keywords.any (·.1.isNone) then failure
      return { a with args := .starred (← spanFrom start) value :: a.args }
    else
      let value ← namedTest g.test
      let value ←
        if ← startsFor then do
          forClauses g
          pure (Expr.shaped (← spanFrom start) .generatorExp)
        else pure value
      if a.keywords.isEmpty then return { a with args := value :: a.args } else failure

/-- The arguments up to the closing bracket, which is not read. -/
def arguments (g : Grammar) : Nat → Arguments → Parser Arguments
  | 0, a => return a
  | limit + 1, a => do
    if ← nextIs (.mark ")") then return a
    let a ← argument g a
    if ← accept (.mark ",") then arguments g limit a else return a

/-- The arguments of a call or the bases of a class, after the opening bracket. -/
def argumentList (g : Grammar) : Parser Arguments := do
  let a ← arguments g g.limit ⟨[], []⟩
  expectMark ")"
  return ⟨a.args.reverse, a.keywords.reverse⟩

/-- The part of a slice after its first colon. -/
def sliceTail (g : Grammar) : Parser Unit := do
  if (← peek).any startsTest then
    let _ ← g.test
  if ← accept (.mark ":") then
    if (← peek).any startsTest then
      let _ ← g.test

/-- An index or a slice. -/
def subscript (g : Grammar) : Parser Unit := do
  if ← accept (.mark ":") then sliceTail g
  else if (← nextIs (.mark "*")) || (← startsNamed) then
    let _ ← namedOrStar g.test g.expr
  else
    let _ ← g.test
    if ← accept (.mark ":") then sliceTail g

def startsSubscript (t : Token) : Bool := startsStarTest t || t == .mark ":"

/-- Calls, indices and attributes after an expression that starts at `start`. -/
def trailers (g : Grammar) (start : Nat) : Nat → Expr → Parser Expr
  | 0, e => return e
  | limit + 1, e => do
    if ← accept (.mark "(") then
      let a ← argumentList g
      trailers g start limit (.call (← spanFrom start) e a.args a.keywords)
    else if ← accept (.mark "[") then
      let _ ← commaList g.limit startsSubscript (subscript g)
      expectMark "]"
      trailers g start limit (.shaped (← spanFrom start) .subscript)
    else if ← accept (.mark ".") then
      let attr ← name
      trailers g start limit (.attribute (← spanFrom start) e attr)
    else return e

def primary (g : Grammar) : Parser Expr := do
  let start ← here
  trailers g start g.limit (← atom g)

def awaited (g : Grammar) : Parser Expr := do
  let start ← here
  if ← accept (.keyword "await") then
    let _ ← primary g
    return .shaped (← spanFrom start) .await
  else primary g

def power (g : Grammar) : Parser Expr := do
  let start ← here
  let base ← awaited g
  if ← accept (.mark "**") then
    let exponent ← g.factor
    return .binary (← spanFrom start) .other base exponent
  else return base

def unaryOp? : Token → Option UnaryOp
  | .mark "-" => some .minus
  | .mark "+" => some .plus
  | .mark "~" => some .invert
  | _ => none

def factor (g : Grammar) : Parser Expr := do
  let start ← here
  match (← peek).bind unaryOp? with
  | some op =>
    let _ ← advance
    let operand ← g.factor
    return .unary (← spanFrom start) op operand
  | none => power g

/-- The next token, if it is one of the signs. -/
def signIn? (signs : List String) : Option Token → Option String
  | some (.mark m) => if m ∈ signs then some m else none
  | _ => none

/-- The operands after the first, with operators between them. -/
def operands (signs : List String) (operand : Parser Expr) (start : Nat) :
    Nat → Expr → Parser Expr
  | 0, e => return e
  | limit + 1, e => do
    match signIn? signs (← peek) with
    | none => return e
    | some sign =>
      let _ ← advance
      let right ← operand
      let op := if sign = "+" then BinaryOp.add else .other
      operands signs operand start limit (.binary (← spanFrom start) op e right)

/-- Operands joined from the left by operators of one rank. -/
def leftAssoc (g : Grammar) (signs : List String) (operand : Parser Expr) : Parser Expr := do
  let start ← here
  operands signs operand start g.limit (← operand)

def term (g : Grammar) : Parser Expr := leftAssoc g ["*", "/", "//", "%", "@"] (factor g)

def sum (g : Grammar) : Parser Expr := leftAssoc g ["+", "-"] (term g)

def shift (g : Grammar) : Parser Expr := leftAssoc g ["<<", ">>"] (sum g)

def bitAnd (g : Grammar) : Parser Expr := leftAssoc g ["&"] (shift g)

def bitXor (g : Grammar) : Parser Expr := leftAssoc g ["^"] (bitAnd g)

/-- An expression without comparisons. -/
def operand (g : Grammar) : Parser Expr := leftAssoc g ["|"] (bitXor g)

/-- Reads a comparison operator, if one comes next. -/
def acceptComparison : Parser Bool := do
  match ← peek with
  | some (.mark m) =>
    if m ∈ ["==", "!=", "<", "<=", ">", ">="] then
      let _ ← advance
      return true
    else return false
  | some (.keyword "in") =>
    let _ ← advance
    return true
  | some (.keyword "is") =>
    let _ ← advance
    let _ ← accept (.keyword "not")
    return true
  | some (.keyword "not") =>
    let _ ← advance
    expectWord "in"
    return true
  | _ => return false

def comparison (g : Grammar) : Parser Expr := do
  let start ← here
  let left ← operand g
  if ← acceptComparison then
    let _ ← operand g
    repeatWhile acceptComparison (fun _ => do let _ ← operand g) g.limit ()
    return .shaped (← spanFrom start) .compare
  else return left

def notTest (g : Grammar) : Parser Expr := do
  let start ← here
  if ← accept (.keyword "not") then
    let value ← g.notTest
    return .unary (← spanFrom start) .not value
  else comparison g

/-- Operands joined by a word such as `and`. -/
def joinedBy (g : Grammar) (word : String) (item : Parser Expr) : Parser Expr := do
  let start ← here
  let first ← item
  if ← nextIs (.keyword word) then
    repeatWhile (accept (.keyword word)) (fun _ => do let _ ← item) g.limit ()
    return .shaped (← spanFrom start) .boolOp
  else return first

def andTest (g : Grammar) : Parser Expr := joinedBy g "and" (notTest g)

def orTest (g : Grammar) : Parser Expr := joinedBy g "or" (andTest g)

def lambda (g : Grammar) : Parser Expr := do
  let start ← here
  expectWord "lambda"
  let _ ← Parameters.all g.limit none g.test (.mark ":")
  expectMark ":"
  let _ ← g.test
  return .shaped (← spanFrom start) .lambda

def test (g : Grammar) : Parser Expr := do
  if ← nextIs (.keyword "lambda") then lambda g
  else
    let start ← here
    let value ← orTest g
    if ← accept (.keyword "if") then
      let _ ← orTest g
      expectWord "else"
      let _ ← g.test
      return .shaped (← spanFrom start) .ifExp
    else return value

/-- Expressions with commas between them. -/
def testList (g : Grammar) : Parser Expr := testListOf g.limit (test g) (operand g)

/-- Expressions without comparisons, with commas between them. -/
def operandList (g : Grammar) : Parser Expr :=
  tupleOf g.limit (testOrStar (operand g) (operand g))

def yieldExpr (g : Grammar) : Parser Expr := yieldExprOf g.limit (test g) (operand g)

/-- An expression as a whole text: nothing but line ends follows it. -/
def isExpression (g : Grammar) (t : List Char) (lexemes : Option (List Lexeme)) : Bool :=
  match lexemes with
  | none => false
  | some lexemes =>
    match (testList g).run ⟨lexemes, t.length⟩ with
    | some (_, s) => s.rest.all (·.token == .newline)
    | none => false

end RefBook.Source
