import RefBook.Number.Binary64
import RefBook.Number.Digits
import RefBook.Toml.Item

/-! Reading keys and values. -/

namespace RefBook.Toml

open Number

/-- Reads from the front of a text. -/
abbrev Reader := StateT (List Char) Option

namespace Reader

def peek : Reader (Option Char) := fun t => some (t.head?, t)

def takeWhile (p : Char → Bool) : Reader (List Char) := fun t =>
  some (t.takeWhile p, t.dropWhile p)

/-- Reads the text if it comes next. -/
def accept (s : String) : Reader Bool := fun t =>
  some (if s.toList.isPrefixOf t then (true, t.drop s.length) else (false, t))

def expect (s : String) : Reader Unit := do
  if ← accept s then return () else failure

/-- Reads one character that is as asked. -/
def char (p : Char → Bool) : Reader Char
  | [] => none
  | c :: t => if p c then some (c, t) else none

def gather {α : Type} (step : Reader (Option α)) : Nat → List α → Reader (List α)
  | 0, items => return items.reverse
  | limit + 1, items => do
    match ← step with
    | some a => gather step limit (a :: items)
    | none => return items.reverse

/-- Repeats a step that reads something until it says that there is no more. -/
def many {α : Type} (step : Reader (Option α)) : Reader (List α) := fun t =>
  gather step (t.length + 1) [] t

end Reader

open Reader

def isBlank (c : Char) : Bool := c == ' ' || c == '\t'

def blanks : Reader Unit := do
  let _ ← takeWhile isBlank

/-- Whether a character may stand in a text or comment at all, the line end apart. -/
def isVisible (c : Char) : Bool :=
  c == '\t' || (0x20 ≤ c.toNat && c.toNat ≤ 0x7E) || 0x80 ≤ c.toNat

def newline : Reader Bool := do
  if ← accept "\n" then return true else accept "\r\n"

def comment : Reader Unit := do
  if ← accept "#" then
    let _ ← takeWhile isVisible

/-- The end of a line, after blanks and a comment, or the end of the document. -/
def lineEnd : Reader Unit := do
  blanks
  comment
  if ← newline then return ()
  else if (← peek).isSome then failure

/-! Texts -/

def isHexDigit (c : Char) : Bool := isDigitOf 16 c

/-- The character whose number is given by so many digits. -/
def codePoint (count : Nat) : Reader Char := fun t =>
  let digits := t.take count
  let n := digitsValue 16 digits
  if digits.length = count && digits.all isHexDigit && n.isValidChar then
    some (Char.ofNat n, t.drop count)
  else none

/-- The character that is written by what follows a backslash. -/
def escape : Reader Char := do
  match ← char fun _ => true with
  | 'b' => return '\x08'
  | 't' => return '\t'
  | 'n' => return '\n'
  | 'f' => return '\x0C'
  | 'r' => return '\r'
  | '\x22' => return '\x22'
  | '\\' => return '\\'
  | 'u' => codePoint 4
  | 'U' => codePoint 8
  | _ => failure

/-- A text on one line, after its opening quote. -/
def quotedRest (quote : Char) (escapes : Bool) : Reader String := do
  let chars ← many do
    let c ← char fun _ => true
    if c == quote then return none
    else if c == '\\' && escapes then return some (← escape)
    else if isVisible c then return some c
    else failure
  return String.ofList chars

/-- Passes over the rest of a line after a backslash, and blank lines after it, if
only blanks follow on the line. -/
def lineJoin : Reader Bool := fun t =>
  let rest := t.dropWhile isBlank
  match newline rest with
  | some (true, rest) => some (true, skip rest.length rest)
  | _ => some (false, t)
where
  skip : Nat → List Char → List Char
    | 0, t => t
    | limit + 1, t =>
      match t with
      | ' ' :: t | '\t' :: t | '\n' :: t | '\r' :: '\n' :: t => skip limit t
      | t => t

/-- The rest of a text on several lines, after its opening quotes; `read` is what
has been read, backwards. Up to two quotes right before the closing ones belong to
the text. -/
def blockRest (quote : Char) (escapes : Bool) : Nat → (read : List Char) → Reader String
  | 0, _ => failure
  | limit + 1, read => do
    if (← peek) == some quote then
      let quotes ← takeWhile (· == quote)
      if quotes.length < 3 then blockRest quote escapes limit (quotes ++ read)
      else
        let kept := min quotes.length 5 - 3
        modify (quotes.drop (kept + 3) ++ ·)
        return String.ofList (read.reverse ++ List.replicate kept quote)
    else if ← newline then blockRest quote escapes limit ('\n' :: read)
    else
      let c ← char isVisible
      if c == '\\' && escapes then
        if ← lineJoin then blockRest quote escapes limit read
        else blockRest quote escapes limit ((← escape) :: read)
      else blockRest quote escapes limit (c :: read)

/-- A text on several lines, after its opening quotes. A line end right after these
is not part of it. -/
def block (quote : Char) (escapes : Bool) : Reader String := do
  let _ ← newline
  blockRest quote escapes ((← get).length + 1) []

/-- A text, if one starts here. -/
def text : Reader (Option String) := do
  if ← accept "\x22\x22\x22" then return some (← block '\x22' true)
  else if ← accept "\x27\x27\x27" then return some (← block '\x27' false)
  else if ← accept "\x22" then return some (← quotedRest '\x22' true)
  else if ← accept "\x27" then return some (← quotedRest '\x27' false)
  else return none

/-! Keys -/

def isBare (c : Char) : Bool := c.isAlphanum || c == '-' || c == '_'

def simpleKey : Reader String := do
  if ← accept "\x22" then quotedRest '\x22' true
  else if ← accept "\x27" then quotedRest '\x27' false
  else
    match ← takeWhile isBare with
    | [] => failure
    | name => return String.ofList name

/-- How deeply keys and values may be nested. -/
def depthLimit : Nat := 80

/-- A key with blanks around it. -/
def paddedKey : Reader String := do
  blanks
  let name ← simpleKey
  blanks
  return name

/-- A dotted key: the keys that lead to the last one, and the last one. -/
def key : Reader (List String × String) := do
  let first ← paddedKey
  let rest ← many do
    if ← accept "." then return some (← paddedKey) else return none
  let names := first :: rest
  if depthLimit ≤ names.length then failure
  return (names.dropLast, rest.getLast?.getD first)

/-! Points in time -/

/-- A number of so many digits that lies between two bounds. -/
def fixedNumber (count low high : Nat) : Reader Nat := fun t =>
  let digits := t.take count
  let n := digitsValue 10 digits
  if digits.length = count && digits.all Char.isDigit && low ≤ n && n ≤ high then
    some (n, t.drop count)
  else none

def isLeapYear (year : Nat) : Bool := (year % 4 == 0 && year % 100 != 0) || year % 400 == 0

def daysOf (year month : Nat) : Nat :=
  if month == 2 then (if isLeapYear year then 29 else 28)
  else if month == 4 || month == 6 || month == 9 || month == 11 then 30
  else 31

def date : Reader Unit := do
  let year ← fixedNumber 4 0 9999
  expect "-"
  let month ← fixedNumber 2 1 12
  expect "-"
  let _ ← fixedNumber 2 1 (daysOf year month)

def time : Reader Unit := do
  let _ ← fixedNumber 2 0 23
  expect ":"
  let _ ← fixedNumber 2 0 59
  expect ":"
  let _ ← fixedNumber 2 0 60
  if ← accept "." then
    if (← takeWhile Char.isDigit).isEmpty then failure

def offset : Reader Unit := do
  let c ← char fun c => c == 'Z' || c == 'z' || c == '+' || c == '-'
  if c == '+' || c == '-' then
    let _ ← fixedNumber 2 0 23
    expect ":"
    let _ ← fixedNumber 2 0 59

/-- A date, a time of day, or a date with a time and perhaps its offset. -/
def moment : Reader Unit := do
  match ← optional date with
  | some _ =>
    let _ ← optional do
      let _ ← char fun c => c == 'T' || c == 't' || c == ' '
      time
      let _ ← optional offset
  | none => time

/-! Numbers -/

/-- At least one digit. -/
def digits (base : Nat) : Reader (List Char) := fun t =>
  if t.head?.any (isDigitOf base) then some (digitRun base t) else none

/-- Whole numbers have 64 bits. -/
def whole (n : Int) : Reader Item :=
  if -9223372036854775808 ≤ n ∧ n < 9223372036854775808 then return .int n else failure

/-- The digits before the point: zero, or a number that does not start with it. -/
def leadingDigits : Reader (List Char) := do
  if ← accept "0" then return ['0'] else digits 10

def exponent : Reader Int := do
  let _ ← char fun c => c == 'e' || c == 'E'
  let isNegative ← accept "-"
  if !isNegative then
    let _ ← accept "+"
  let n : Int := digitsValue 10 (← digits 10)
  return if isNegative then -n else n

/-- A number after its sign. A positive number with a fraction must not be too
large. -/
def unsigned (isNegative : Bool) : Reader Item := do
  if ← accept "inf" then return .float
  else if ← accept "nan" then return .float
  else
    let leading ← leadingDigits
    let next ← peek
    if next == some '.' || next == some 'e' || next == some 'E' then
      let fraction ← if ← accept "." then digits 10 else pure []
      let e ← if next == some '.' then pure ((← optional exponent).getD 0) else exponent
      let value := Binary64.ofDecimal false (digitsValue 10 (leading ++ fraction))
        (e - fraction.length)
      if value == .infinite false && !isNegative then failure
      return .float
    else
      let n : Int := digitsValue 10 leading
      whole (if isNegative then -n else n)

def number : Reader Item := do
  if ← accept "+" then unsigned false
  else if ← accept "-" then unsigned true
  else if ← accept "0x" then whole (digitsValue 16 (← digits 16))
  else if ← accept "0o" then whole (digitsValue 8 (← digits 8))
  else if ← accept "0b" then whole (digitsValue 2 (← digits 2))
  else unsigned false

/-! Values -/

/-- Passes over one blank, comment or line end, if there is one. -/
def spaceStep : Reader (Option Unit) := do
  match ← peek with
  | some ' ' | some '\t' => return some (← blanks)
  | some '#' => return some (← comment)
  | some '\n' | some '\r' => if ← newline then return some () else failure
  | _ => return none

/-- Blanks, comments and line ends. -/
def space : Reader Unit := do
  let _ ← many spaceStep

/-- The items of an array after its opening bracket. -/
def arrayRest (item : Reader Item) : Reader (List Item) := do
  space
  if ← accept "]" then return []
  let first ← item
  let rest ← many do
    space
    if ← accept "," then
      space
      if ← accept "]" then return none
      else return some (← item)
    else
      expect "]"
      return none
  return first :: rest

/-- A key and its value in a table written as a value. -/
def inlineEntry (item : Reader Item) : Reader (List String × String × Item) := do
  let (path, name) ← key
  expect "="
  blanks
  let i ← item
  blanks
  return (path, name, i)

/-- A table written as a value, after its opening brace. -/
def inlineRest (item : Reader Item) : Reader Entries := do
  blanks
  if ← accept "\x7d" then return []
  let first ← inlineEntry item
  let rest ← many do
    if ← accept "," then return some (← inlineEntry item)
    else
      expect "\x7d"
      return none
  (first :: rest).foldlM (fun t (path, name, i) => t.add path name i) []

/-- A value that holds no other values. -/
def scalar : Reader (Option Item) := do
  match ← text with
  | some s => return some (.text s)
  | none =>
    match ← optional moment with
    | some _ => return some .moment
    | none =>
      if ← accept "true" then return some (.bool true)
      else if ← accept "false" then return some (.bool false)
      else optional number

/-- A value with arrays and tables nested in it at most so deep. -/
def value : (depth : Nat) → Reader Item
  | 0 => do
    match ← scalar with
    | some i => return i
    | none => failure
  | depth + 1 => do
    if ← accept "[" then return .array (← arrayRest (value depth))
    else if ← accept "\x7b" then return .inline (← inlineRest (value depth))
    else
      match ← scalar with
      | some i => return i
      | none => failure

end RefBook.Toml
