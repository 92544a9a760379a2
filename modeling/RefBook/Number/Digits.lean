/-! Runs of digits in which single underscores may stand between two digits. -/

namespace RefBook.Number

/-- The value of a digit in any base up to sixteen. -/
def digitValue (c : Char) : Nat :=
  if c.isDigit then c.toNat - 48
  else if 'a' ≤ c && c ≤ 'f' then c.toNat - 87
  else if 'A' ≤ c && c ≤ 'F' then c.toNat - 55
  else 16

def isDigitOf (base : Nat) (c : Char) : Bool := digitValue c < base

/-- The longest run of digits at the start of a text, and the rest. An
underscore is passed over if a digit follows it. -/
def digitRun (base : Nat) : List Char → List Char × List Char
  | [] => ([], [])
  | c :: t =>
    if isDigitOf base c then
      let (run, rest) := digitRun base t
      (c :: run, rest)
    else if c = '_' ∧ t.head?.any (isDigitOf base) then digitRun base t
    else ([], c :: t)

def digitsValue (base : Nat) (digits : List Char) : Nat :=
  digits.foldl (fun n c => n * base + digitValue c) 0

end RefBook.Number
