import RefBook.Source.Numeral
import RefBook.Unicode.Identifier

/-! Reading a source text into tokens. Outside brackets the ends of lines and
changes of indentation are tokens too. -/

namespace RefBook.Source

/-- An indentation: tabs, then spaces. -/
structure Indentation where
  tabs : Nat
  spaces : Nat
deriving DecidableEq, Repr, Inhabited

namespace Indentation

def zero : Indentation := ⟨0, 0⟩

/-- How two indentations compare, unless that hangs on the width of a tab. -/
def compare? (a b : Indentation) : Option Ordering :=
  match compare a.tabs b.tabs with
  | .lt => if a.spaces ≤ b.spaces then some .lt else none
  | .gt => if b.spaces ≤ a.spaces then some .gt else none
  | .eq => some (compare a.spaces b.spaces)

/-- The levels left after closing those deeper than `a`, and how many were
closed; `a` has to be one of the levels. -/
def close? (a : Indentation) : List Indentation → Option (List Indentation × Nat)
  | [] => if a = zero then some ([], 0) else none
  | level :: outer => do
    match ← a.compare? level with
    | .lt =>
      let (levels, closed) ← a.close? outer
      return (levels, closed + 1)
    | .eq => return (level :: outer, 0)
    | .gt => none

end Indentation

/-- The start of a line: blank lines, comments and the indentation. A tab after
a space is an error, and a form feed starts the indentation anew. -/
structure LineStart where
  indentation : Indentation
  offset : Nat
  rest : List Char

def lineStart? (comment : Bool) (level : Indentation) (offset : Nat) :
    List Char → Option LineStart
  | [] => some ⟨.zero, offset, []⟩
  | c :: t =>
    if c = '\n' ∨ c = '\r' then lineStart? false .zero (offset + 1) t
    else if comment then lineStart? true .zero (offset + 1) t
    else if c = ' ' then lineStart? false ⟨level.tabs, level.spaces + 1⟩ (offset + 1) t
    else if c = '\t' then
      if level.spaces = 0 then lineStart? false ⟨level.tabs + 1, 0⟩ (offset + 1) t else none
    else if c = '#' then lineStart? true .zero (offset + 1) t
    else if c = '\x0c' then lineStart? false .zero (offset + 1) t
    else some ⟨level, offset, c :: t⟩

/-- A string read up to its closing quotes: its characters in reverse, and what
follows. -/
structure StringEnd where
  reversed : List Char
  offset : Nat
  rest : List Char

/-- Reads a string to its end. A line end counts as one line feed, however it
is written; only between tripled quotes may one stand alone. -/
def stringEnd? (quote : Char) (triple : Bool) (acc : List Char) (offset : Nat) :
    List Char → Option StringEnd
  | [] => none
  | '\\' :: '\r' :: '\n' :: t => stringEnd? quote triple ('\n' :: '\\' :: acc) (offset + 3) t
  | '\\' :: '\r' :: t => stringEnd? quote triple ('\n' :: '\\' :: acc) (offset + 2) t
  | '\\' :: c :: t => stringEnd? quote triple (c :: '\\' :: acc) (offset + 2) t
  | '\r' :: '\n' :: t =>
    if triple then stringEnd? quote triple ('\n' :: acc) (offset + 2) t else none
  | c :: t =>
    if c = '\r' ∨ c = '\n' then
      if triple then stringEnd? quote triple ('\n' :: acc) (offset + 1) t else none
    else if c = quote then
      if triple then
        match t with
        | a :: b :: rest =>
          if a = quote ∧ b = quote then some ⟨acc, offset + 3, rest⟩
          else stringEnd? quote triple (c :: acc) (offset + 1) (a :: b :: rest)
        | t => stringEnd? quote triple (c :: acc) (offset + 1) t
      else some ⟨acc, offset + 1, t⟩
    else stringEnd? quote triple (c :: acc) (offset + 1) t

def isQuote (c : Char) : Bool := c == '\x27' || c == '\x22'

/-- The kind of string that letters before a quote announce. -/
def stringKind? : List Char → Option StringKind
  | [] => some ⟨false, false, false⟩
  | [a] =>
    match a.toLower with
    | 'r' => some ⟨true, false, false⟩
    | 'b' => some ⟨false, true, false⟩
    | 'f' => some ⟨false, false, true⟩
    | 'u' => some ⟨false, false, false⟩
    | _ => none
  | [a, b] =>
    match a.toLower, b.toLower with
    | 'r', 'b' | 'b', 'r' => some ⟨true, true, false⟩
    | 'r', 'f' | 'f', 'r' => some ⟨true, false, true⟩
    | _, _ => none
  | _ => none

/-- The string that a text starts with: its kind and the text from its quote on. -/
def stringStart? (t : List Char) : Option (StringKind × Nat × List Char) :=
  let letters := (t.take 2).takeWhile Char.isAlpha
  match t.drop letters.length with
  | quote :: rest =>
    if isQuote quote then (stringKind? letters).map fun k => (k, letters.length, quote :: rest)
    else none
  | [] => none

/-- The state of the lexer between two tokens. -/
structure LexState where
  offset : Nat
  /-- How many brackets are open. -/
  nesting : Nat
  /-- The open indentations, the deepest first. -/
  levels : List Indentation
  lineStart : Bool
deriving Repr

/-- What one step reads. -/
structure Step where
  lexemes : List Lexeme
  state : LexState
  rest : List Char

/-- A step that reads one token of `length` characters. -/
def tokenStep (s : LexState) (token : Token) (length : Nat) (rest : List Char) : Step :=
  let stop := s.offset + length
  ⟨[⟨token, ⟨s.offset, stop⟩⟩], { s with offset := stop }, rest⟩

/-- A step that passes over `length` characters. -/
def skipStep (s : LexState) (length : Nat) (rest : List Char) : Step :=
  ⟨[], { s with offset := s.offset + length }, rest⟩

def indentationStep? (s : LexState) (t : List Char) : Option Step := do
  let line ← lineStart? false .zero s.offset t
  let here : Span := ⟨line.offset, line.offset⟩
  let s := { s with offset := line.offset, lineStart := false }
  if line.rest.isEmpty then
    -- The end of the text closes all levels by itself.
    return ⟨[], { s with lineStart := true }, []⟩
  match ← line.indentation.compare? (s.levels.headD .zero) with
  | .eq => return ⟨[], s, line.rest⟩
  | .gt => return ⟨[⟨.indent, here⟩], { s with levels := line.indentation :: s.levels }, line.rest⟩
  | .lt =>
    let (levels, closed) ← line.indentation.close? s.levels
    return ⟨List.replicate closed ⟨.dedent, here⟩, { s with levels }, line.rest⟩

def stringStep? (s : LexState) (kind : StringKind) (letters : Nat) (t : List Char) :
    Option Step := do
  match t with
  | [] => none
  | quote :: t =>
    let (triple, opening, t) := match t with
      | a :: b :: rest => if a = quote ∧ b = quote then (true, 3, rest) else (false, 1, t)
      | t => (false, 1, t)
    let stop ← stringEnd? quote triple [] (letters + opening) t
    return tokenStep s (.string kind stop.reversed.reverse) stop.offset stop.rest

def wordToken (word : List Char) : Token :=
  let id := String.ofList word
  if id ∈ keywords ∨ id ∈ softKeywords then .keyword id else .name id

def openers : List String := ["(", "[", "\x7b"]

def closers : List String := [")", "]", "\x7d"]

/-- Counts a bracket; one that closes needs an open one. -/
def markStep? (s : LexState) (sign : String) (t : List Char) : Option Step :=
  let step := tokenStep s (.mark sign) sign.length (t.drop sign.length)
  if sign ∈ openers then some { step with state := { step.state with nesting := s.nesting + 1 } }
  else if sign ∈ closers then
    if s.nesting = 0 then none
    else some { step with state := { step.state with nesting := s.nesting - 1 } }
  else some step

def isBlankChar (c : Char) : Bool := c == ' ' || c == '\t' || c == '\x0c'

/-- The end of a line: a token outside brackets, a blank inside. -/
def lineEndStep (s : LexState) (length : Nat) (rest : List Char) : Step :=
  if s.nesting = 0 then
    let step := tokenStep s .newline length rest
    { step with state := { step.state with lineStart := true } }
  else skipStep s length rest

/-- A backslash joins two lines; there has to be a second one. -/
def joinedStep? (s : LexState) : List Char → Option Step
  | '\r' :: '\n' :: rest => if rest.isEmpty then none else some (skipStep s 3 rest)
  | c :: rest =>
    if (c = '\n' ∨ c = '\r') ∧ ¬ rest.isEmpty then some (skipStep s 2 rest) else none
  | [] => none

/-- Reads the token that a text starts with inside a line. -/
def tokenStep? (s : LexState) (t : List Char) : Option Step :=
  match t with
  | [] => none
  | '\r' :: '\n' :: rest => some (lineEndStep s 2 rest)
  | '.' :: d :: rest =>
    if d.isDigit then
      (decimal? ('.' :: d :: rest)).map fun n =>
        tokenStep s n.token (t.length - n.rest.length) n.rest
    else if d = '.' ∧ rest.head? = some '.' then markStep? s "..." t
    else markStep? s "." t
  | c :: rest =>
    match stringStart? t with
    | some (kind, letters, fromQuote) => stringStep? s kind letters fromQuote
    | none =>
      if c = '\n' ∨ c = '\r' then some (lineEndStep s 1 rest)
      else if isBlankChar c then
        let blank := t.takeWhile isBlankChar
        some (skipStep s blank.length (t.drop blank.length))
      else if c = '#' then
        let comment := t.takeWhile fun c => c != '\n' && c != '\r'
        some (skipStep s comment.length (t.drop comment.length))
      else if c = '\\' then joinedStep? s rest
      else if Unicode.isIdentStart c then
        let word := t.takeWhile Unicode.isIdentContinue
        some (tokenStep s (wordToken word) word.length (t.drop word.length))
      else if c.isDigit then
        (numeral? t).map fun n => tokenStep s n.token (t.length - n.rest.length) n.rest
      else match marks.find? fun m => m.toList.isPrefixOf t with
        | some sign => markStep? s sign t
        | none =>
          if Unicode.isPicture c then
            some (tokenStep s (.name (String.ofList [c])) 1 rest)
          else none

def step? (s : LexState) (t : List Char) : Option Step :=
  if s.lineStart then indentationStep? s t else tokenStep? s t

/-- The tokens at the end of a text: the end of its last line, and of every open
level. An open bracket has to be closed before. -/
def endLexemes? (s : LexState) : Option (List Lexeme) :=
  let here : Span := ⟨s.offset, s.offset⟩
  if s.nesting ≠ 0 then none
  else some ((if s.lineStart then [] else [⟨.newline, here⟩]) ++
    List.replicate s.levels.length ⟨.dedent, here⟩)

/-- Reads the rest of a text in at most `fuel` steps. -/
def lexFrom? : Nat → LexState → List Char → Option (List Lexeme)
  | 0, _, _ => none
  | _ + 1, s, [] => endLexemes? s
  | fuel + 1, s, c :: t => do
    let step ← step? s (c :: t)
    return step.lexemes ++ (← lexFrom? fuel step.state step.rest)

/-- Reads a whole text. A step at the start of a line may read no character, but
then it leaves the start of the line, so two steps a character are enough. -/
def lexAll? (offset : Nat) (t : List Char) : Option (List Lexeme) :=
  lexFrom? (2 * t.length + 2) ⟨offset, 0, [], true⟩ t

/-- Whether the word at the start of a line opens a match statement or one of
its cases: the line has a colon outside brackets that is not the next token and
does not belong to a function without a name. -/
def opensBlock (nesting : Int) (first lambda : Bool) : List Lexeme → Bool
  | [] => false
  | l :: rest =>
    match l.token with
    | .newline => false
    | .keyword "lambda" => opensBlock nesting false (lambda || nesting == 0) rest
    | .mark ":" =>
      if nesting == 0 then
        if lambda then opensBlock nesting false false rest
        else !first || opensBlock nesting false false rest
      else opensBlock nesting false lambda rest
    | .mark m =>
      let nesting := if m ∈ openers then nesting + 1 else if m ∈ closers then nesting - 1 else nesting
      opensBlock nesting false lambda rest
    | _ => opensBlock nesting false lambda rest

/-- Whether an equals sign follows, perhaps after something in brackets. -/
def equalsFollows (nesting : Int) : List Lexeme → Bool
  | [] => false
  | l :: rest =>
    match l.token with
    | .newline => false
    | .mark "=" => if nesting == 0 then true else nesting > 0 && equalsFollows nesting rest
    | .mark "[" => equalsFollows (nesting + 1) rest
    | .mark "]" => equalsFollows (nesting - 1) rest
    | _ => nesting > 0 && equalsFollows nesting rest

/-- Whether the word `type` at the start of a line defines an alias. -/
def opensAlias : List Lexeme → Bool
  | [] => false
  | l :: rest =>
    match l.token with
    | .name _ => equalsFollows 0 rest
    | .keyword w => w ∈ softKeywords && equalsFollows 0 rest
    | _ => false

/-- Turns the soft keywords that are names into names; a keyword can stand at
the start of a line only. -/
def resolveSoft (lineStart : Bool) : List Lexeme → List Lexeme
  | [] => []
  | l :: rest =>
    let token := match l.token with
      | .keyword w =>
        if w ∈ softKeywords then
          if lineStart && (if w = "type" then opensAlias rest else opensBlock 0 true false rest)
          then l.token else .name w
        else l.token
      | token => token
    let next := token == .newline || token == .indent || token == .dedent
    { l with token } :: resolveSoft next rest

/-- The tokens of a source text; a mark of byte order at its start is passed
over. -/
def lex? (t : List Char) : Option (List Lexeme) :=
  let (offset, t) := match t with
    | '\uFEFF' :: t => (1, t)
    | t => (0, t)
  (lexAll? offset t).map (resolveSoft true)

/-- The tokens of an expression, which does not start a line. -/
def lexExpression? (t : List Char) : Option (List Lexeme) :=
  (lexAll? 0 t).map (resolveSoft false)

end RefBook.Source
