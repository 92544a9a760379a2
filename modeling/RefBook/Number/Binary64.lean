/-! Binary floating point numbers of 64 bits: rounding a decimal to the nearest
one, and the shortest decimal that rounds back to a given one. -/

namespace RefBook

/-- A finite number is `significand * 2 ^ exponent`, with a significand below
`2 ^ 53`; the exponent is `-1074`, or it is larger and the significand is at
least `2 ^ 52`. -/
inductive Binary64
  | finite (negative : Bool) (significand : Nat) (exponent : Int)
  | infinite (negative : Bool)
deriving DecidableEq, Repr, Inhabited

namespace Binary64

def twoTo (n : Nat) : Nat := Nat.pow 2 n

def tenTo (n : Nat) : Nat := Nat.pow 10 n

def leastExponent : Int := -1074

def greatestExponent : Int := 971

def neg : Binary64 → Binary64
  | finite s m q => finite (!s) m q
  | infinite s => infinite (!s)

/-- The quotient rounded to the nearest number, of two to the even one. -/
def roundDiv (num den : Nat) : Nat :=
  let q := num / den
  let r := num % den
  if 2 * r < den || (2 * r == den && q % 2 == 0) then q else q + 1

/-- The quotient `num / den` over `2 ^ q`, as a quotient of numbers. -/
def scaled (num den : Nat) (q : Int) : Nat × Nat :=
  if 0 ≤ q then (num, den * twoTo q.toNat) else (num * twoTo (-q).toNat, den)

/-- The exponent at which the quotient has 53 significant bits, or the least
one where it has fewer. -/
def exponentOf (num den : Nat) : Int :=
  let q := (Nat.log2 num : Int) - Nat.log2 den - 52
  let (n, d) := scaled num den q
  max (if n / d < twoTo 52 then q - 1 else q) leastExponent

/-- The nearest number to the positive quotient `num / den`. -/
def ofRatio (negative : Bool) (num den : Nat) : Binary64 :=
  let q := exponentOf num den
  let (n, d) := scaled num den q
  let m := roundDiv n d
  let (m, q) := if m = twoTo 53 then (twoTo 52, q + 1) else (m, q)
  if greatestExponent < q then infinite negative else finite negative m q

/-- The nearest number to `digits * 10 ^ exponent`. Decimals beyond the range of
finite numbers, or below half the least one, are told by their size alone. -/
def ofDecimal (negative : Bool) (digits : Nat) (exponent : Int) : Binary64 :=
  let size := ((Nat.toDigits 10 digits).length : Int) + exponent
  if digits = 0 || size < -330 then finite negative 0 leastExponent
  else if 310 < size then infinite negative
  else if 0 ≤ exponent then ofRatio negative (digits * tenTo exponent.toNat) 1
  else ofRatio negative digits (tenTo (-exponent).toNat)

/-- How many zeros follow the point of a fraction below one, at most `limit`. -/
def leadingZeros (num den : Nat) : Nat → Nat
  | 0 => 0
  | limit + 1 => if num * 10 < den then leadingZeros (num * 10) den limit + 1 else 0

/-- The place of the point: the quotient lies below `10 ^ k` and not below
`10 ^ (k - 1)`. -/
def pointOf (num den : Nat) : Int :=
  if den ≤ num then (Nat.toDigits 10 (num / den)).length else -(leadingZeros num den 400 : Int)

/-- The digits of a decimal and the place of its point, counted from the left. -/
structure Decimal where
  digits : List Char
  point : Int
deriving DecidableEq, Repr

/-- A finite number with the ends of the interval of reals that round to it, as
numerators over one denominator. -/
structure Interval where
  low : Nat
  value : Nat
  high : Nat
  den : Nat
  closed : Bool

def interval (m : Nat) (q : Int) : Interval :=
  let below := if m = twoTo 52 && leastExponent < q then 1 else 2
  let scale := if 0 ≤ q then twoTo q.toNat else 1
  { low := (4 * m - below) * scale
    value := 4 * m * scale
    high := (4 * m + 2) * scale
    den := 4 * (if 0 ≤ q then 1 else twoTo (-q).toNat)
    closed := m % 2 == 0 }

/-- Whether `n * 10 ^ e` lies in the interval. -/
def Interval.holds (i : Interval) (n : Nat) (e : Int) : Bool :=
  let a := n * i.den * (if 0 ≤ e then tenTo e.toNat else 1)
  let s := if 0 ≤ e then 1 else tenTo (-e).toNat
  if i.closed then i.low * s ≤ a && a ≤ i.high * s else i.low * s < a && a < i.high * s

/-- The nearer of the two neighbours of the value on the grid of multiples of
`10 ^ e` that lies in the interval. -/
def Interval.hit? (i : Interval) (e : Int) : Option Nat :=
  let num := if 0 ≤ e then i.value else i.value * tenTo (-e).toNat
  let den := if 0 ≤ e then i.den * tenTo e.toNat else i.den
  let n := num / den
  let nearLow := 2 * (num % den) ≤ den
  match i.holds n e, i.holds (n + 1) e with
  | true, true => some (if nearLow then n else n + 1)
  | true, false => some n
  | false, true => some (n + 1)
  | false, false => none

/-- The digits of a number without the zeros at their end, and how many there
are of all. -/
def significantDigits (n : Nat) : List Char × Nat :=
  let digits := Nat.toDigits 10 n
  ((digits.reverse.dropWhile (· == '0')).reverse, digits.length)

/-- Tries grids of ever more digits, `tries` of them. -/
def shortestFrom (i : Interval) (point : Int) (digits : Nat) : Nat → Decimal
  | 0 => ⟨[], 0⟩
  | tries + 1 =>
    let e := point - digits
    match i.hit? e with
    | some n =>
      let (ds, length) := significantDigits n
      ⟨ds, length + e⟩
    | none => shortestFrom i point (digits + 1) tries

/-- The decimal with the fewest digits that rounds to the positive number
`m * 2 ^ q`, and of these the nearest to it. -/
def shortest (m : Nat) (q : Int) : Decimal :=
  let i := interval m q
  shortestFrom i (pointOf i.value i.den) 1 17

/-- How a decimal is written out: the least place of the point at which it is
written without an exponent. -/
structure Layout where
  leastPoint : Int
  greatestPoint : Int

def digitsText (l : Layout) (d : Decimal) : List Char :=
  let length : Int := d.digits.length
  if l.leastPoint ≤ d.point && d.point ≤ l.greatestPoint then
    if d.point ≤ 0 then
      '0' :: '.' :: List.replicate (-d.point).toNat '0' ++ d.digits
    else if d.point < length then
      d.digits.take d.point.toNat ++ '.' :: d.digits.drop d.point.toNat
    else d.digits ++ List.replicate (d.point - length).toNat '0' ++ ['.', '0']
  else
    let e := d.point - 1
    let exponent := (if e < 0 then ['-'] else []) ++ Nat.toDigits 10 e.natAbs
    match d.digits with
    | [c] => c :: 'e' :: exponent
    | c :: rest => c :: '.' :: rest ++ 'e' :: exponent
    | [] => 'e' :: exponent

/-- The text of a number with the fewest digits that read back. -/
def text (l : Layout) : Binary64 → List Char
  | infinite s => (if s then ['-'] else []) ++ ['i', 'n', 'f']
  | finite s m q =>
    (if s then ['-'] else []) ++
      if m = 0 then ['0', '.', '0'] else digitsText l (shortest m q)

end Binary64

end RefBook
