import RefBook.Number.Binary64

/-! The tokens of a source text, with the characters they span. -/

namespace RefBook.Source

/-- A range of characters of the source text. -/
structure Span where
  start : Nat
  stop : Nat
deriving DecidableEq, Repr, Inhabited

/-- What the letters before a quote say about a string. -/
structure StringKind where
  raw : Bool
  bytes : Bool
  format : Bool
deriving DecidableEq, Repr, Inhabited

inductive Token
  | name (id : String)
  | keyword (word : String)
  | mark (sign : String)
  | int (value : Nat)
  | float (value : Binary64)
  /-- A number followed by the imaginary unit. -/
  | imaginary
  /-- The characters between the quotes, escapes as written. -/
  | string (kind : StringKind) (body : List Char)
  | newline
  | indent
  | dedent
deriving DecidableEq, Repr, Inhabited

structure Lexeme where
  token : Token
  span : Span
deriving DecidableEq, Repr, Inhabited

/-- The reserved words. -/
def keywords : List String := [
  "False", "None", "True", "and", "as", "assert", "async", "await", "break", "class",
  "continue", "def", "del", "elif", "else", "except", "finally", "for", "from", "global",
  "if", "import", "in", "is", "lambda", "nonlocal", "not", "or", "pass", "raise", "return",
  "try", "while", "with", "yield"]

/-- Words that are reserved in some places only. -/
def softKeywords : List String := ["match", "case", "type"]

/-- The operators and separators, longer ones first. -/
def marks : List String := [
  "**=", "//=", ">>=", "<<=", "...",
  "==", "!=", "<=", ">=", "<<", ">>", "**", "//", "+=", "-=", "*=", "/=", "%=", "&=", "|=",
  "^=", "@=", "->", ":=",
  "+", "-", "*", "/", "%", "@", "&", "|", "^", "~", "<", ">", "(", ")", "[", "]", "\x7b",
  "\x7d", ",", ":", ".", ";", "="]

end RefBook.Source
