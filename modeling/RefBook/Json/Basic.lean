import RefBook.Number.Binary64
import RefBook.Text.Split

/-! Structured data and its written form, indented by two blanks a level. -/

namespace RefBook

inductive Json
  | null
  | bool (b : Bool)
  | int (n : Int)
  | float (x : Binary64)
  | text (s : String)
  | list (items : List Json)
  | record (fields : List (String × Json))
deriving Inhabited

namespace Json

def ofOption {α : Type} (f : α → Json) : Option α → Json
  | none => null
  | some a => f a

def texts (items : List String) : Json := list (items.map text)

/-- A float is written without an exponent from 0.00001 up to 16 integral digits. -/
def floatLayout : Binary64.Layout := ⟨-4, 16⟩

/-- One character of a text. Control characters are escaped. -/
def escaped (c : Char) : List Char :=
  if c = '\x22' then ['\\', '\x22']
  else if c = '\\' then ['\\', '\\']
  else if c = '\x08' then ['\\', 'b']
  else if c = '\x0C' then ['\\', 'f']
  else if c = '\n' then ['\\', 'n']
  else if c = '\r' then ['\\', 'r']
  else if c = '\t' then ['\\', 't']
  else if c.toNat < 0x20 then
    ['\\', 'u', '0', '0', Nat.digitChar (c.toNat / 16), Nat.digitChar (c.toNat % 16)]
  else [c]

def quoted (s : String) : List Char := '\x22' :: s.toList.flatMap escaped ++ ['\x22']

def intChars (n : Int) : List Char :=
  (if n < 0 then ['-'] else []) ++ Nat.toDigits 10 n.natAbs

/-- A line end and the indentation of the level after it. -/
def lineBreak (level : Nat) : List Char := '\n' :: List.replicate (2 * level) ' '

/-- Parts between an opening and a closing mark, each on its own line. -/
def bracketed (opening closing : Char) (level : Nat) (parts : List (List Char)) : List Char :=
  if parts.isEmpty then [opening, closing]
  else opening :: lineBreak (level + 1) ++
    Text.joinWith (',' :: lineBreak (level + 1)) parts ++ lineBreak level ++ [closing]

mutual

/-- The written form at a level of indentation. An infinite number has none of its
own. -/
def chars (level : Nat) : Json → List Char
  | null => "null".toList
  | bool true => "true".toList
  | bool false => "false".toList
  | int n => intChars n
  | float (.infinite _) => "null".toList
  | float x => x.text floatLayout
  | text s => quoted s
  | list items => bracketed '[' ']' level (itemChars (level + 1) items)
  | record fields => bracketed '\x7b' '\x7d' level (fieldChars (level + 1) fields)

def itemChars (level : Nat) : List Json → List (List Char)
  | [] => []
  | item :: rest => chars level item :: itemChars level rest

def fieldChars (level : Nat) : List (String × Json) → List (List Char)
  | [] => []
  | (name, value) :: rest =>
    (quoted name ++ ':' :: ' ' :: chars level value) :: fieldChars level rest

end

def render (j : Json) : String := String.ofList (chars 0 j)

end Json

end RefBook
