import RefBook.Source.Lexer
import RefBook.Source.Pattern

/-! The statements. Blocks and what is in brackets are read by the grammar one
level deeper. -/

namespace RefBook.Source

open RefBook.Source.Parser

def assignSigns : List String :=
  ["+=", "-=", "*=", "@=", "/=", "%=", "&=", "|=", "^=", "<<=", ">>=", "**=", "//="]

def testListOrYield (g : Grammar) : Parser Expr := do
  if ← nextIs (.keyword "yield") then yieldExpr g else testList g

/-- The values after equals signs, gathered in reverse. -/
def assigned (g : Grammar) : Nat → List Expr → Parser (List Expr)
  | 0, values => return values
  | limit + 1, values => do
    if ← accept (.mark "=") then assigned g limit ((← testListOrYield g) :: values)
    else return values

/-- An expression, an assignment or a declaration with a type. Only a single
expression without a star can be given a type. -/
def expressionStmt (g : Grammar) : Parser Stmt := do
  let start ← here
  let (items, trailing) ←
    commaList g.limit startsStarTest (testOrStar (test g) (operand g))
  let target ← match items, trailing with
    | [e], false => pure e
    | _, _ => do pure (Expr.tuple (← spanFrom start) items)
  match ← peek with
  | some (.mark "=") =>
    match ← assigned g g.limit [target] with
    | value :: targets => return .assign targets.reverse value
    | [] => failure
  | some (.mark ":") =>
    let _ ← advance
    if trailing || items.length != 1 || target.isStarred then failure
    let type ← test g
    if ← accept (.mark "=") then return .annAssign target type (some (← testListOrYield g))
    else return .annAssign target type none
  | some (.mark m) =>
    if m ∈ assignSigns then
      let _ ← advance
      let op := if m = "+=" then BinaryOp.add else .other
      return .augAssign target op (← testListOrYield g)
    else return .expr target
  | _ => return .expr target

/-- A name with points in it. -/
def dottedName (limit : Nat) : Parser String := do
  repeatWhile (accept (.mark ".")) (fun id => return id ++ "." ++ (← name)) limit (← name)

def importAlias (id : Parser String) : Parser Alias := do
  let id ← id
  if ← accept (.keyword "as") then return ⟨id, some (← name)⟩ else return ⟨id, none⟩

/-- The points before the module of an import. -/
def importDots : Nat → Nat → Parser Nat
  | 0, level => return level
  | limit + 1, level => do
    if ← accept (.mark ".") then importDots limit (level + 1)
    else if ← accept (.mark "...") then importDots limit (level + 3)
    else return level

def importNames (g : Grammar) : Parser (List Alias) := do
  if ← accept (.mark "*") then return [⟨"*", none⟩]
  else if ← accept (.mark "(") then
    let (names, _) ← commaList g.limit isName (importAlias name)
    expectMark ")"
    return names
  else commaList1 g.limit (importAlias name)

def importStmt (g : Grammar) : Parser Stmt := do
  if ← accept (.keyword "import") then
    return .importWhole (← commaList1 g.limit (importAlias (dottedName g.limit)))
  else
    expectWord "from"
    let level ← importDots g.limit 0
    let module ←
      if (← peek).any isName then some <$> dottedName g.limit
      else if level = 0 then failure
      else pure none
    expectWord "import"
    return .importFrom module (← importNames g) level

def typeParam (g : Grammar) : Parser Unit := do
  if (← accept (.mark "*")) || (← accept (.mark "**")) then
    let _ ← name
  else
    let _ ← name
    if ← accept (.mark ":") then
      let _ ← test g

def startsTypeParam (t : Token) : Bool := isName t || t == .mark "*" || t == .mark "**"

/-- The type parameters of a declaration, where there are any. -/
def typeParams (g : Grammar) : Parser Unit := do
  if ← accept (.mark "[") then
    let _ ← commaList g.limit startsTypeParam (typeParam g)
    expectMark "]"

def typeAliasStmt (g : Grammar) : Parser Stmt := do
  expectWord "type"
  let start ← here
  let id ← name
  let defined := Expr.name (← spanFrom start) id
  typeParams g
  expectMark "="
  return .typeAlias defined (← test g)

/-- A statement that fits in a line. -/
def smallStmt (g : Grammar) : Parser Stmt := do
  match ← peek with
  | some (.keyword "pass") | some (.keyword "break") | some (.keyword "continue") =>
    let _ ← advance
    return .other
  | some (.keyword "del") =>
    let _ ← advance
    let _ ← commaList g.limit startsStarTest (testOrStar (operand g) (operand g))
    return .other
  | some (.keyword "return") =>
    let _ ← advance
    if (← peek).any startsStarTest then
      let _ ← testList g
    return .other
  | some (.keyword "raise") =>
    let _ ← advance
    if (← peek).any startsTest then
      let _ ← test g
      if ← accept (.keyword "from") then
        let _ ← test g
    return .other
  | some (.keyword "yield") => return .expr (← yieldExpr g)
  | some (.keyword "import") | some (.keyword "from") => importStmt g
  | some (.keyword "global") | some (.keyword "nonlocal") =>
    let _ ← advance
    let _ ← commaList1 g.limit name
    return .other
  | some (.keyword "assert") =>
    let _ ← advance
    let _ ← test g
    if ← accept (.mark ",") then
      let _ ← test g
    return .other
  | some (.keyword "type") => typeAliasStmt g
  | _ => expressionStmt g

/-- The small statements of a line up to its end, gathered in reverse. -/
def lineRest (g : Grammar) : Nat → List Stmt → Parser (List Stmt)
  | 0, _ => failure
  | limit + 1, stmts => do
    let stmts := (← smallStmt g) :: stmts
    if ← accept (.mark ";") then
      if ← accept .newline then return stmts.reverse else lineRest g limit stmts
    else
      expect .newline
      return stmts.reverse

def line (g : Grammar) : Parser (List Stmt) := lineRest g g.limit []

/-- The block of an `else` or another word, or no statements. -/
def optionalBlock (g : Grammar) (word : String) : Parser (List Stmt) := do
  if ← accept (.keyword word) then
    expectMark ":"
    g.suite
  else return []

/-- The `elif` blocks, the last one first. -/
def elifBlocks (g : Grammar) : Nat → List (List Stmt) → Parser (List (List Stmt))
  | 0, blocks => return blocks
  | limit + 1, blocks => do
    if ← accept (.keyword "elif") then
      let _ ← namedTest (test g)
      expectMark ":"
      elifBlocks g limit ((← g.suite) :: blocks)
    else return blocks

def ifStmt (g : Grammar) : Parser Stmt := do
  expectWord "if"
  let _ ← namedTest (test g)
  expectMark ":"
  let body ← g.suite
  let elifs ← elifBlocks g g.limit []
  let orelse ← optionalBlock g "else"
  return .ifElse body (elifs.foldl (fun rest block => [.ifElse block rest]) orelse)

def whileStmt (g : Grammar) : Parser Stmt := do
  expectWord "while"
  let _ ← namedTest (test g)
  expectMark ":"
  let body ← g.suite
  return .loop body (← optionalBlock g "else")

def forStmt (g : Grammar) : Parser Stmt := do
  expectWord "for"
  let _ ← operandList g
  expectWord "in"
  let _ ← testList g
  expectMark ":"
  let body ← g.suite
  return .loop body (← optionalBlock g "else")

/-- The handlers of a try statement: all of them have a star or none has. -/
def handlers (g : Grammar) (starred : Bool) : Nat → List (List Stmt) → Parser (List (List Stmt))
  | 0, blocks => return blocks.reverse
  | limit + 1, blocks => do
    if ← accept (.keyword "except") then
      if (← accept (.mark "*")) != starred then failure
      if starred || !(← nextIs (.mark ":")) then
        let _ ← test g
        if ← accept (.keyword "as") then
          let _ ← name
      expectMark ":"
      handlers g starred limit ((← g.suite) :: blocks)
    else return blocks.reverse

/-- A try statement has handlers or a block that is always run; only with
handlers can it have an `else`. -/
def tryStmt (g : Grammar) : Parser Stmt := do
  expectWord "try"
  expectMark ":"
  let body ← g.suite
  if ← nextIs (.keyword "except") then
    let starred ← secondIs (.mark "*")
    let blocks ← handlers g starred g.limit []
    let orelse ← optionalBlock g "else"
    let final ← optionalBlock g "finally"
    return .tryExcept body blocks orelse final
  else
    expectWord "finally"
    expectMark ":"
    return .tryExcept body [] [] (← g.suite)

def withItem (g : Grammar) : Parser Unit := do
  let _ ← test g
  if ← accept (.keyword "as") then
    let _ ← operand g

/-- The items of a with statement in brackets, and the colon after them. -/
def bracketedWithItems (g : Grammar) : Parser Unit := do
  expectMark "("
  let _ ← commaList g.limit startsTest (withItem g)
  expectMark ")"
  expectMark ":"

/-- The items of a with statement, and the colon after them. Brackets around all
of them may hold names too. -/
def withItems (g : Grammar) : Parser Unit := do
  bracketedWithItems g <|> do
    let _ ← commaList1 g.limit (withItem g)
    expectMark ":"

def withStmt (g : Grammar) : Parser Stmt := do
  expectWord "with"
  withItems g
  return .inContext (← g.suite)

def functionStmt (g : Grammar) (isAsync : Bool) (decorators : List Expr) : Parser Stmt := do
  expectWord "def"
  let id ← name
  typeParams g
  expectMark "("
  let types : Parameters.Types := ⟨test g, testOrStar (test g) (operand g)⟩
  let params ← Parameters.all g.limit (some types) (test g) (.mark ")")
  expectMark ")"
  let returns ← if ← accept (.mark "->") then some <$> test g else pure none
  expectMark ":"
  return .function isAsync id params returns decorators (← g.suite)

def classStmt (g : Grammar) (decorators : List Expr) : Parser Stmt := do
  expectWord "class"
  let id ← name
  typeParams g
  let bases ← if ← accept (.mark "(") then do pure (← argumentList g).args else pure []
  expectMark ":"
  return .class id bases decorators (← g.suite)

/-- Decorators, each on its own line, gathered in reverse. -/
def decorators (g : Grammar) : Nat → List Expr → Parser (List Expr)
  | 0, es => return es.reverse
  | limit + 1, es => do
    if ← accept (.mark "@") then
      let e ← namedTest (test g)
      expect .newline
      decorators g limit (e :: es)
    else return es.reverse

/-- A function or a class below its decorators. -/
def decoratedStmt (g : Grammar) : Parser Stmt := do
  let es ← decorators g g.limit []
  if ← nextIs (.keyword "class") then classStmt g es
  else
    let isAsync ← accept (.keyword "async")
    functionStmt g isAsync es

/-- A case of a match statement. -/
def case (g : Grammar) : Parser (List Stmt) := do
  expectWord "case"
  Pattern.patterns g
  if ← accept (.keyword "if") then
    let _ ← namedTest (test g)
  expectMark ":"
  g.suite

/-- The cases of a match statement up to the end of its block, gathered in reverse. -/
def cases (g : Grammar) : Parser (List (List Stmt)) := do
  repeatWhile (nextIs (.keyword "case")) (fun blocks => return (← case g) :: blocks) g.limit
    [← case g]

def matchStmt (g : Grammar) : Parser Stmt := do
  expectWord "match"
  let _ ← commaList g.limit startsStarTest (namedOrStar (test g) (operand g))
  expectMark ":"
  expect .newline
  expect .indent
  let blocks ← cases g
  expect .dedent
  return .matchCases blocks.reverse

/-- The statements of one line, or one that has blocks. -/
def statement (g : Grammar) : Parser (List Stmt) := do
  match ← peek with
  | some (.keyword "if") => return [← ifStmt g]
  | some (.keyword "while") => return [← whileStmt g]
  | some (.keyword "for") => return [← forStmt g]
  | some (.keyword "try") => return [← tryStmt g]
  | some (.keyword "with") => return [← withStmt g]
  | some (.keyword "def") | some (.keyword "class") | some (.mark "@") =>
    return [← decoratedStmt g]
  | some (.keyword "async") =>
    match ← peekSecond with
    | some (.keyword "for") =>
      let _ ← advance
      return [← forStmt g]
    | some (.keyword "with") =>
      let _ ← advance
      return [← withStmt g]
    | _ => return [← decoratedStmt g]
  | some (.keyword "match") => return [← matchStmt g]
  | _ => line g

/-- The statements of an indented block up to its end. -/
def blockRest (g : Grammar) : Nat → List (List Stmt) → Parser (List Stmt)
  | 0, _ => failure
  | limit + 1, stmts => do
    let stmts := (← statement g) :: stmts
    if ← accept .dedent then return stmts.reverse.flatten else blockRest g limit stmts

/-- The block after a colon: the rest of the line, or indented lines. -/
def suite (g : Grammar) : Parser (List Stmt) := do
  if ← accept .newline then
    expect .indent
    blockRest g g.limit []
  else line g

namespace Grammar

/-- The grammar in which nothing is nested. -/
def zero : Grammar :=
  ⟨0, failure, failure, failure, failure, failure, failure, failure, fun _ => false⟩

/-- The grammar one level above `g`. -/
def next (g : Grammar) : Grammar where
  limit := g.limit + 1
  test := Source.test g
  orTest := Source.orTest g
  notTest := Source.notTest g
  expr := operand g
  factor := Source.factor g
  pattern := Pattern.pattern g
  suite := Source.suite g
  isExpression t := Source.isExpression g t (lexExpression? t)

/-- The grammar in which things are nested to the given depth at most. -/
def level : Nat → Grammar
  | 0 => zero
  | n + 1 => (level n).next

end Grammar

/-- All statements of a text; lines may be empty. -/
def program (g : Grammar) : Nat → List (List Stmt) → Parser (List Stmt)
  | 0, _ => failure
  | limit + 1, stmts => do
    if (← peek).isNone then return stmts.reverse.flatten
    else if ← accept .newline then program g limit stmts
    else program g limit ((← statement g) :: stmts)

/-- The statements of a source text. Every level of nesting and every repeated
part takes a character of the text, so its length bounds both. -/
def parse? (t : List Char) : Option (List Stmt) := do
  let lexemes ← lex? t
  let bound := t.length + 2
  let (stmts, _) ← (program (Grammar.level bound) (lexemes.length + 1) []).run ⟨lexemes, 0⟩
  return stmts

end RefBook.Source
