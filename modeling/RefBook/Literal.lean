import RefBook.Dict
import RefBook.Number.Binary64
import RefBook.Text.Split
import RefBook.Text.Utf8

/-! Literal values and their text, and decorators called with them. -/

namespace RefBook

inductive Literal
  | none
  | bool (value : Bool)
  | int (value : Int)
  | float (value : Binary64)
  | str (value : String)
  | bytes (value : List UInt8)
  | ellipsis
  | tuple (items : List Literal)
  | list (items : List Literal)
deriving Inhabited, Repr

namespace Literal

/-- Quotes are single, unless the text has a single quote and no double one. -/
def quoteFor (t : List Char) : Char :=
  if '\x27' ∈ t ∧ '\x22' ∉ t then '\x22' else '\x27'

/-- One character of a quoted text. -/
def quotedChar (quote c : Char) : List Char :=
  if c = '\\' then ['\\', '\\']
  else if c = '\n' then ['\\', 'n']
  else if c = '\r' then ['\\', 'r']
  else if c = '\t' then ['\\', 't']
  else if c = quote then ['\\', c]
  else [c]

def quoted (t : List Char) : List Char :=
  let quote := quoteFor t
  quote :: t.flatMap (quotedChar quote) ++ [quote]

def intChars (n : Int) : List Char :=
  if n < 0 then '-' :: Nat.toDigits 10 n.natAbs else Nat.toDigits 10 n.natAbs

/-- A float is written without an exponent from 0.0001 up to 16 integral digits. -/
def floatLayout : Binary64.Layout := ⟨-3, 16⟩

mutual

/-- The text of a literal. A tuple of one item keeps a comma. -/
def chars : Literal → List Char
  | none => "None".toList
  | bool true => "True".toList
  | bool false => "False".toList
  | int n => intChars n
  | float x => x.text floatLayout
  | str s => quoted s.toList
  | bytes b => 'b' :: quoted (Text.ofUtf8Lossy b)
  | ellipsis => "...".toList
  | tuple [item] => '(' :: chars item ++ [',', ')']
  | tuple items => '(' :: Text.joinWith [',', ' '] (itemChars items) ++ [')']
  | list items => '[' :: Text.joinWith [',', ' '] (itemChars items) ++ [']']

/-- The texts of the items. -/
def itemChars : List Literal → List (List Char)
  | [] => []
  | item :: rest => chars item :: itemChars rest

end

def text (l : Literal) : String := String.ofList l.chars

end Literal

/-- A decorator of a function or a class. One that is not called, or called
with something other than literals, has neither `args` nor `kwargs`. -/
structure Decorator where
  name : String
  args : Option (List Literal)
  kwargs : Option (Dict Literal)
deriving Inhabited

namespace Decorator

def bare (name : String) : Decorator := ⟨name, none, none⟩

def isBare (d : Decorator) : Bool := d.args.isNone && d.kwargs.isNone

def text (d : Decorator) : String :=
  if d.isBare then "@" ++ d.name
  else
    let positional := (d.args.getD []).map Literal.text
    let named := (d.kwargs.getD ∅).entries.map fun (key, value) => key ++ "=" ++ value.text
    "@" ++ d.name ++ "(" ++ ", ".intercalate (positional ++ named) ++ ")"

end Decorator

end RefBook
