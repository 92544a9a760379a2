import RefBook.Glob.Basic

/-! The written form of a pattern. -/

namespace RefBook.Glob

/-- The smallest parts of a written pattern. -/
inductive Mark
  | question
  | star
  | opening
  | closing
  | comma
  | byteIn (negated : Bool) (ranges : List (UInt8 × UInt8))
  | plain (c : Char)
  /-- A character after a backslash. -/
  | escaped (c : Char)
deriving Repr, Inhabited, DecidableEq

/-- The last character of a mark. -/
def Mark.last : Mark → Char
  | question => '?'
  | star => '*'
  | opening => '\x7b'
  | closing => '\x7d'
  | comma => ','
  | byteIn _ _ => ']'
  | plain c | escaped c => c

/-- The ranges that the characters between brackets name. `last` is the range read
last, and `inRange` says that a minus follows it. -/
def rangesFrom : (last : Char × Char) → (inRange : Bool) → List Char →
    Option (List (Char × Char))
  | last, true, [] => some [last, ('-', '-')]
  | last, false, [] => some [last]
  | last, true, c :: cs =>
    if c < last.1 then none else rangesFrom (last.1, c) false cs
  | last, false, c :: cs =>
    if c = '-' then rangesFrom last true cs
    else (rangesFrom (c, c) false cs).map (last :: ·)

/-- The bytes of a range of characters, read as characters of one byte each. -/
def byteRanges (r : Char × Char) : List (UInt8 × UInt8) :=
  let single (b : UInt8) := (b, b)
  let low := String.utf8EncodeChar r.1
  let high := String.utf8EncodeChar r.2
  if r.1 = r.2 then low.map single
  else
    match low.getLast?, high with
    | some l, h :: more => low.dropLast.map single ++ (l, h) :: more.map single
    | _, _ => []

/-- What stands between brackets, and what follows them. The first character may be
a closing bracket. -/
def bracketed? (negated : Bool) : List Char → Option (Mark × List Char)
  | [] => none
  | c :: cs =>
    match cs.dropWhile (· != ']') with
    | [] => none
    | _ :: rest =>
      (rangesFrom (c, c) false (cs.takeWhile (· != ']'))).map fun ranges =>
        (.byteIn negated (ranges.flatMap byteRanges), rest)

/-- The mark that the text after an opening bracket starts with, and what follows
it. -/
def brackets? : List Char → Option (Mark × List Char)
  | '!' :: cs | '^' :: cs => bracketed? true cs
  | cs => bracketed? false cs

theorem length_of_bracketed? {negated : Bool} {cs rest : List Char} {m : Mark}
    (h : bracketed? negated cs = some (m, rest)) : rest.length < cs.length := by
  cases cs with
  | nil => simp [bracketed?] at h
  | cons c cs =>
    have hd : (cs.dropWhile (· != ']')).length ≤ cs.length :=
      (List.dropWhile_suffix _).length_le
    simp only [bracketed?] at h
    split at h
    · simp at h
    · rename_i hrest
      simp only [Option.map_eq_some_iff, Prod.mk.injEq] at h
      obtain ⟨_, _, _, rfl⟩ := h
      simp only [hrest, List.length_cons] at hd ⊢
      omega

theorem length_of_brackets? {cs rest : List Char} {m : Mark}
    (h : brackets? cs = some (m, rest)) : rest.length < cs.length := by
  unfold brackets? at h
  split at h
  · exact Nat.lt_succ_of_lt (length_of_bracketed? h)
  · exact Nat.lt_succ_of_lt (length_of_bracketed? h)
  · exact length_of_bracketed? h

/-- Cuts a written pattern into marks. -/
def marks? : List Char → Option (List Mark)
  | [] => some []
  | '?' :: cs => (marks? cs).map (.question :: ·)
  | '*' :: cs => (marks? cs).map (.star :: ·)
  | '\x7b' :: cs => (marks? cs).map (.opening :: ·)
  | '\x7d' :: cs => (marks? cs).map (.closing :: ·)
  | ',' :: cs => (marks? cs).map (.comma :: ·)
  | ['\\'] => none
  | '\\' :: c :: cs => (marks? cs).map (.escaped c :: ·)
  | '[' :: cs =>
    match h : brackets? cs with
    | none => none
    | some (m, rest) =>
      have := length_of_brackets? h
      (marks? rest).map (m :: ·)
  | c :: cs => (marks? cs).map (.plain c :: ·)
termination_by cs => cs.length

/-- The braces that are open: the finished branches of each, and the pieces of its
last branch, the latest first. -/
structure Level where
  branches : List (List Piece)
  pieces : List Piece

structure State where
  /-- The pieces of the branch that is read, the latest first. -/
  pieces : List Piece
  /-- The finished branches of the innermost open brace. -/
  branches : List (List Piece)
  outer : List Level

namespace State

def push (s : State) (p : Piece) : State := { s with pieces := p :: s.pieces }

/-- Replaces the latest piece by one that stands for directories, unless it is
such a piece already. -/
def pushDirs (s : State) (p : Piece) : State :=
  match s.pieces with
  | .leadingDirs :: _ | .trailing :: _ => s
  | _ :: ps => { s with pieces := p :: ps }
  | [] => { s with pieces := [p] }

def isNested (s : State) : Bool := !s.outer.isEmpty

/-- Two stars, with the mark before them and the one after them. Also says whether
the slash after them belongs to them. -/
def pushStars (s : State) (before : Option Mark) (next : Option Mark) : State × Bool :=
  let apart := (s.push .star).push .star
  let slashNext := next == some (.plain '/')
  if s.pieces.isEmpty then
    if slashNext then (s.push .leadingDirs, true)
    else if next.isNone then (s.push .leadingDirs, false)
    else (apart, false)
  else
    let before := before.map Mark.last
    let starts := before == some '/' ||
      s.isNested && (before == some ',' || before == some '\x7b')
    if !starts then (apart, false)
    else if slashNext then (s.pushDirs .innerDirs, true)
    else if next.isNone || s.isNested && (next == some .comma || next == some .closing) then
      (s.pushDirs .trailing, false)
    else (apart, false)

def openBrace (s : State) : State := ⟨[], [], ⟨s.branches, s.pieces⟩ :: s.outer⟩

def nextBranch (s : State) : State :=
  { s with pieces := [], branches := s.branches ++ [s.pieces.reverse] }

def closeBrace? (s : State) : Option State :=
  match s.outer with
  | [] => none
  | level :: outer =>
    some ⟨.oneOf (s.branches ++ [s.pieces.reverse]) :: level.pieces, level.branches, outer⟩

end State

def literalOf (c : Char) : Piece := .literal (String.utf8EncodeChar c)

/-- Reads marks; `before` is the mark read last. -/
def readMarks : State → (before : Option Mark) → List Mark → Option State
  | s, _, [] => some s
  | s, before, .star :: .star :: .plain c :: ms =>
    match s.pushStars before (some (.plain c)) with
    | (s, true) => readMarks s (some (.plain c)) ms
    | (s, false) => readMarks s (some .star) (.plain c :: ms)
  | s, before, .star :: .star :: ms => readMarks (s.pushStars before ms.head?).1 (some .star) ms
  | s, _, .star :: ms => readMarks (s.push .star) (some .star) ms
  | s, _, .question :: ms => readMarks (s.push .any) (some .question) ms
  | s, _, .opening :: ms => readMarks s.openBrace (some .opening) ms
  | s, _, .closing :: ms => do readMarks (← s.closeBrace?) (some .closing) ms
  | s, _, .comma :: ms =>
    readMarks (if s.isNested then s.nextBranch else s.push (literalOf ',')) (some .comma) ms
  | s, _, .byteIn negated ranges :: ms =>
    readMarks (s.push (.byteIn negated ranges)) (some (.byteIn negated ranges)) ms
  | s, _, .plain c :: ms => readMarks (s.push (literalOf c)) (some (.plain c)) ms
  | s, _, .escaped c :: ms => readMarks (s.push (literalOf c)) (some (.escaped c)) ms

/-- What is said of a text that is no pattern. -/
def badPatternDetail : String := "not a well formed pattern"

end RefBook.Glob

namespace RefBook

/-- The pattern with that written form. -/
def Glob.parse? (text : String) : Option Glob := do
  let s ← Glob.readMarks ⟨[], [], []⟩ none (← Glob.marks? text.toList)
  if s.isNested then none else some ⟨s.pieces.reverse⟩

end RefBook
