/-! Bytes read as UTF-8. A part that is not well formed is read as one unknown
character as far as it could still have become a well formed one. -/

namespace RefBook.Text

def isContinuation (b : UInt8) : Bool := 0x80 ≤ b && b < 0xC0

/-- The low bits of a continuation byte. -/
def lowBits (b : UInt8) : Nat := b.toNat % 0x40

/-- The second bytes that may follow the first byte of three or four. -/
def allowsSecond (a b : UInt8) : Bool :=
  if a == 0xE0 then 0xA0 ≤ b && b < 0xC0
  else if a == 0xED then 0x80 ≤ b && b < 0xA0
  else if a == 0xF0 then 0x90 ≤ b && b < 0xC0
  else if a == 0xF4 then 0x80 ≤ b && b < 0x90
  else isContinuation b

/-- The character that the bytes start with, if they start with a well formed
one, and how many bytes are read for it. -/
def firstUnit : List UInt8 → Option Char × Nat
  | [] => (none, 0)
  | a :: rest =>
    if a < 0x80 then (some (Char.ofNat a.toNat), 1)
    else if 0xC2 ≤ a && a < 0xE0 then
      match rest with
      | b :: _ =>
        if isContinuation b then (some (Char.ofNat (a.toNat % 0x20 * 0x40 + lowBits b)), 2)
        else (none, 1)
      | [] => (none, 1)
    else if 0xE0 ≤ a && a < 0xF0 then
      match rest with
      | b :: rest =>
        if allowsSecond a b then
          match rest with
          | c :: _ =>
            if isContinuation c then
              (some (Char.ofNat ((a.toNat % 0x10 * 0x40 + lowBits b) * 0x40 + lowBits c)), 3)
            else (none, 2)
          | [] => (none, 2)
        else (none, 1)
      | [] => (none, 1)
    else if 0xF0 ≤ a && a < 0xF5 then
      match rest with
      | b :: rest =>
        if allowsSecond a b then
          match rest with
          | c :: rest =>
            if isContinuation c then
              match rest with
              | d :: _ =>
                if isContinuation d then
                  (some (Char.ofNat
                    (((a.toNat % 8 * 0x40 + lowBits b) * 0x40 + lowBits c) * 0x40 + lowBits d)), 4)
                else (none, 3)
              | [] => (none, 3)
            else (none, 2)
          | [] => (none, 2)
        else (none, 1)
      | [] => (none, 1)
    else (none, 1)

/-- The characters of the bytes, `none` for each part that is not well formed;
`skip` bytes still belong to the part before. -/
def utf8Units : Nat → List UInt8 → List (Option Char)
  | _, [] => []
  | skip + 1, _ :: rest => utf8Units skip rest
  | 0, a :: rest =>
    let (unit, length) := firstUnit (a :: rest)
    unit :: utf8Units (length - 1) rest

/-- The text of well formed bytes. -/
def ofUtf8? (bytes : List UInt8) : Option (List Char) := (utf8Units 0 bytes).mapM id

/-- The text of any bytes, with replacement characters. -/
def ofUtf8Lossy (bytes : List UInt8) : List Char :=
  (utf8Units 0 bytes).map (·.getD '\uFFFD')

end RefBook.Text
