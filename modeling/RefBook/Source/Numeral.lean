import RefBook.Number.Digits
import RefBook.Source.Token

/-! The numerals of a source text. -/

namespace RefBook.Source

open Number

/-- A numeral and the text after it. -/
structure Numeral where
  token : Token
  rest : List Char

/-- Whether an exponent with digits starts here. -/
def startsExponent : List Char → Bool
  | e :: c :: t =>
    (e == 'e' || e == 'E') && (c.isDigit || ((c == '+' || c == '-') && t.head?.any Char.isDigit))
  | _ => false

def startsUnderscore (t : List Char) : Bool := t.head? == some '_'

/-- The exponent of a decimal, if one starts here: its value and the rest. A
mark without digits, or an underscore before them, is an error. -/
def exponent? (t : List Char) : Option (Int × List Char) :=
  match t with
  | e :: t =>
    if e = 'e' ∨ e = 'E' then
      if startsUnderscore t then none
      else
        let (negative, signed, digits) := match t with
          | '-' :: t => (true, true, t)
          | '+' :: t => (false, true, t)
          | t => (false, false, t)
        if signed && startsUnderscore digits then none
        else match digitRun 10 digits with
          | ([], _) => none
          | (run, rest) =>
            let value : Int := digitsValue 10 run
            some (if negative then -value else value, rest)
    else some (0, e :: t)
  | [] => some (0, [])

/-- Ends a number by the imaginary unit where there is one. -/
def withUnit (token : Token) (rest : List Char) : Numeral :=
  match rest with
  | c :: t => if c = 'j' ∨ c = 'J' then ⟨.imaginary, t⟩ else ⟨token, rest⟩
  | [] => ⟨token, []⟩

/-- A number in base ten. One that starts with a zero is zero, or it has a
point, an exponent or the imaginary unit. -/
def decimal? (t : List Char) : Option Numeral := do
  let (whole, rest) := digitRun 10 t
  if rest.head? == some '.' || startsExponent rest then
    let (fraction, rest) ← match rest with
      | '.' :: rest => if startsUnderscore rest then none else some (digitRun 10 rest)
      | rest => some ([], rest)
    let (exponent, rest) ← exponent? rest
    let digits := digitsValue 10 (whole ++ fraction)
    return withUnit (.float (.ofDecimal false digits (exponent - fraction.length))) rest
  else
    let value := digitsValue 10 whole
    let numeral := withUnit (.int value) rest
    if t.head? == some '0' && numeral.token == .int value && value != 0 then none
    else return numeral

/-- A whole number in base two, eight or sixteen; it has at least one digit. -/
def based? (base : Nat) (t : List Char) : Option Numeral :=
  match digitRun base t with
  | ([], _) => none
  | (run, rest) => some ⟨.int (digitsValue base run), rest⟩

/-- The numeral that a text starts with. -/
def numeral? (t : List Char) : Option Numeral :=
  match t with
  | '0' :: c :: rest =>
    if c = 'x' ∨ c = 'X' then based? 16 rest
    else if c = 'o' ∨ c = 'O' then based? 8 rest
    else if c = 'b' ∨ c = 'B' then based? 2 rest
    else decimal? t
  | _ => decimal? t

end RefBook.Source
