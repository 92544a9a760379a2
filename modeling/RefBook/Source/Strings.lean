import RefBook.Source.Tree
import RefBook.Text.Space
import RefBook.Unicode.Names

/-! The values of strings: escapes, and the fields of formatted strings. -/

namespace RefBook.Source

def isOctal (c : Char) : Bool := '0' ≤ c && c ≤ '7'

/-- The character whose code is given by exactly `n` hexadecimal digits, and the
text after them. Half of a pair of units stands for an unknown character. -/
def hexChar? (n : Nat) (t : List Char) : Option (Char × List Char) :=
  let digits := t.take n
  if digits.length = n ∧ digits.all (isDigitOf16 ·) then
    let code := digits.foldl (fun k c => k * 16 + hexValue c) 0
    if 0xD800 ≤ code ∧ code ≤ 0xDFFF then some ('\uFFFD', t.drop n)
    else if code ≤ 0x10FFFF then some (Char.ofNat code, t.drop n)
    else none
  else none
where
  isDigitOf16 (c : Char) : Bool :=
    c.isDigit || ('a' ≤ c && c ≤ 'f') || ('A' ≤ c && c ≤ 'F')
  hexValue (c : Char) : Nat :=
    if c.isDigit then c.toNat - 48 else if 'a' ≤ c then c.toNat - 87 else c.toNat - 55

/-- The character of a name in braces, and the text after them. -/
def namedChar? : List Char → Option (Char × List Char)
  | '\x7b' :: t =>
    match t.dropWhile (· != '\x7d') with
    | _ :: rest =>
      (Unicode.named? (t.takeWhile (· != '\x7d'))).map fun c => (c, rest)
    | [] => none
  | _ => none

/-- The escapes of one letter. -/
def letterEscapes : List (Char × Char) :=
  [('\\', '\\'), ('\x27', '\x27'), ('\x22', '\x22'), ('a', '\x07'), ('b', '\x08'),
   ('f', '\x0c'), ('n', '\n'), ('r', '\r'), ('t', '\t'), ('v', '\x0b')]

/-- What an escape stands for, given the text after its backslash, and the text
after the escape. An escape that means nothing stands for itself. -/
def escape? (bytes : Bool) : List Char → Option (List Char × List Char)
  | [] => none
  | c :: t =>
    match letterEscapes.lookup c with
    | some d => some ([d], t)
    | none =>
      if isOctal c then
        let digits := c :: (t.take 2).takeWhile isOctal
        let code := digits.foldl (fun n d => n * 8 + (d.toNat - 48)) 0
        some ([Char.ofNat code], t.drop (digits.length - 1))
      else if c = 'x' then (hexChar? 2 t).map fun (d, rest) => ([d], rest)
      else if c = 'u' ∧ ¬ bytes then (hexChar? 4 t).map fun (d, rest) => ([d], rest)
      else if c = 'U' ∧ ¬ bytes then (hexChar? 8 t).map fun (d, rest) => ([d], rest)
      else if c = 'N' ∧ ¬ bytes then (namedChar? t).map fun (d, rest) => ([d], rest)
      else if c = '\n' then some ([], t)
      else if bytes ∧ 128 ≤ c.toNat then none
      else some (['\\', c], t)

/-- The characters of a string, in at most `fuel` steps; bytes are written with
the first 128 characters only. -/
def unescape? (kind : StringKind) : Nat → List Char → Option (List Char)
  | _, [] => some []
  | 0, _ => none
  | fuel + 1, c :: t =>
    if c = '\\' ∧ ¬ kind.raw then do
      let (value, rest) ← escape? kind.bytes t
      return value ++ (← unescape? kind fuel rest)
    else if kind.bytes ∧ 128 ≤ c.toNat then none
    else (unescape? kind fuel t).map (c :: ·)

mutual

/-- Passes over the text of a formatted string and gives what is left: nothing,
or at `depth` above zero the text from a closing brace on. `valid` tells whether
a text is an expression. -/
def formatText? (valid : List Char → Bool) (raw : Bool) (depth : Nat) :
    Nat → List Char → Option (List Char)
  | 0, _ => none
  | fuel + 1, t =>
    if 2 ≤ depth then none
    else match t with
      | [] => some []
      | '\x7b' :: t =>
        match decide (depth = 0), t with
        | true, [] => none
        | true, '\x7b' :: t => formatText? valid raw depth fuel t
        | _, t => do
          let rest ← formatField? valid raw depth [] [] false fuel t
          formatText? valid raw depth fuel rest
      | '\x7d' :: t =>
        if 0 < depth then some ('\x7d' :: t)
        else match t with
          | '\x7d' :: t => formatText? valid raw depth fuel t
          | _ => none
      | c :: t =>
        if c = '\\' ∧ ¬ raw then do
          let (_, rest) ← escape? false t
          formatText? valid raw depth fuel rest
        else formatText? valid raw depth fuel t

/-- Passes over a field: an expression, read so far in reverse as `expr`, with
the brackets `opened` in it, then perhaps an equals sign, a conversion and a
format. -/
def formatField? (valid : List Char → Bool) (raw : Bool) (depth : Nat) (expr opened : List Char)
    (shown : Bool) : Nat → List Char → Option (List Char)
  | 0, _ => none
  | _ + 1, [] => none
  | fuel + 1, c :: t =>
    let isEmpty := Text.isBlank expr
    let next := t.head?
    let closes (bracket : Char) : Option (List Char) :=
      if opened.head? = some bracket then
        formatField? valid raw depth (c :: expr) opened.tail shown fuel t
      else none
    if (c = '!' ∨ c = '=' ∨ c = '>' ∨ c = '<') ∧ next = some '=' then
      formatField? valid raw depth ('=' :: c :: expr) opened shown fuel t.tail
    else if c = '!' ∧ opened.isEmpty then
      match t with
      | flag :: t =>
        if ¬ isEmpty ∧ (flag = 's' ∨ flag = 'a' ∨ flag = 'r') ∧
            (t.head? = some '\x7d' ∨ t.head? = some ':') then
          formatField? valid raw depth expr opened shown fuel t
        else none
      | [] => none
    else if c = '=' ∧ opened.isEmpty then formatField? valid raw depth expr opened true fuel t
    else if c = ':' ∧ opened.isEmpty then do
      let rest ← formatSpec? valid raw depth fuel t
      formatField? valid raw depth expr opened shown fuel rest
    else if c = '(' ∨ c = '[' ∨ c = '\x7b' then
      formatField? valid raw depth (c :: expr) (c :: opened) shown fuel t
    else if c = ')' then closes '('
    else if c = ']' then closes '['
    else if c = '\x7d' ∧ ¬ opened.isEmpty then closes '\x7b'
    else if c = '\x7d' then
      if ¬ isEmpty ∧ valid ('(' :: expr.reverse ++ [')']) then some t else none
    else if c = '\x27' ∨ c = '\x22' then
      let inner := t.takeWhile (· != c)
      match t.drop inner.length with
      | [] => none
      | _ :: rest =>
        formatField? valid raw depth (c :: inner.reverse ++ c :: expr) opened shown fuel rest
    else if c = ' ' ∧ shown then formatField? valid raw depth expr opened shown fuel t
    else if c = '\\' ∨ shown then none
    else formatField? valid raw depth (c :: expr) opened shown fuel t

/-- Passes over the format of a field, which may hold fields of its own. -/
def formatSpec? (valid : List Char → Bool) (raw : Bool) (depth : Nat) :
    Nat → List Char → Option (List Char)
  | 0, _ => none
  | _ + 1, [] => some []
  | fuel + 1, c :: t =>
    if c = '\x7b' then do
      let rest ← formatText? valid raw (depth + 1) fuel (c :: t)
      formatSpec? valid raw depth fuel rest
    else if c = '\x7d' then some (c :: t)
    else formatSpec? valid raw depth fuel t

end

/-- Whether the body of a formatted string is well formed. -/
def isFormat (valid : List Char → Bool) (raw : Bool) (body : List Char) : Bool :=
  formatText? valid raw 0 (3 * body.length + 3) body == some []

/-- The value of a string, or `none` where it is formatted. -/
inductive StringValue
  | text (value : List Char)
  | bytes (value : List UInt8)
  | formatted

/-- The value of one string; `valid` tells whether a text is an expression. -/
def stringValue? (valid : List Char → Bool) (kind : StringKind) (body : List Char) :
    Option StringValue :=
  if kind.format then
    if isFormat valid kind.raw body then some .formatted else none
  else (unescape? kind body.length body).map fun value =>
    if kind.bytes then .bytes (value.map fun c => c.toNat.toUInt8) else .text value

/-- The expression of strings that stand side by side: they join into one, so
none or all of them are bytes, and a formatted one makes the whole formatted. -/
def stringsExpr? (valid : List Char → Bool) (span : Span)
    (pieces : List (StringKind × List Char)) : Option Expr := do
  let values ← pieces.mapM fun (kind, body) => stringValue? valid kind body
  if pieces.all (·.1.bytes) then
    return .constant span (.bytes (values.flatMap fun
      | .bytes b => b
      | _ => []))
  else if pieces.any (·.1.bytes) then none
  else if pieces.any (·.1.format) then return .shaped span .joinedStr
  else return .constant span (.str (values.flatMap fun
    | .text t => t
    | _ => []))

end RefBook.Source
