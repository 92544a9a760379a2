/-! Patterns for paths. They are matched byte by byte, and a wildcard may cross
from one directory into another. -/

namespace RefBook.Glob

inductive Piece
  /-- These bytes. -/
  | literal (bytes : List UInt8)
  /-- Any one byte. -/
  | any
  /-- Any bytes, or none. -/
  | star
  /-- Nothing, or some directories with the slash after them. -/
  | leadingDirs
  /-- A slash, or slashes with some directories between them. -/
  | innerDirs
  /-- A slash and all that follows. -/
  | trailing
  /-- One byte in one of the ranges, or in none of them if `negated`. -/
  | byteIn (negated : Bool) (ranges : List (UInt8 × UInt8))
  /-- One of several sequences. -/
  | oneOf (branches : List (List Piece))
deriving Repr, Inhabited

abbrev Bytes := List UInt8

/-- All ends of a text, the text itself among them. -/
def tails : Bytes → List Bytes
  | [] => [[]]
  | b :: t => (b :: t) :: tails t

/-- The ends of a text that start after a slash. -/
def afterSlashes : Bytes → List Bytes
  | [] => []
  | b :: t => if b = 47 then t :: afterSlashes t else afterSlashes t

/-- What follows these bytes, if the text starts with them. -/
def afterLiteral (bytes t : Bytes) : List Bytes :=
  if bytes.isPrefixOf t then [t.drop bytes.length] else []

/-- What follows the first byte, if it is as asked. -/
def afterByte (p : UInt8 → Bool) : Bytes → List Bytes
  | b :: t => if p b then [t] else []
  | [] => []

mutual

/-- Whether the piece says nothing at all. -/
def Piece.isVoid : Piece → Bool
  | .oneOf branches => areVoid branches
  | .literal bytes => bytes.isEmpty
  | _ => false

def isVoid : List Piece → Bool
  | [] => true
  | p :: ps => p.isVoid && isVoid ps

def areVoid : List (List Piece) → Bool
  | [] => true
  | b :: bs => isVoid b && areVoid bs

end

/-- Keeps one of several ends that are equally long, for ends of one text. -/
def distinct (ends : List Bytes) : List Bytes :=
  ends.eraseDupsBy fun a b => a.length == b.length

mutual

/-- What may be left of a text when a piece has matched its start. -/
def Piece.rests : Piece → Bytes → List Bytes
  | .literal bytes, t => afterLiteral bytes t
  | .any, t => afterByte (fun _ => true) t
  | .star, t => tails t
  | .leadingDirs, t => t :: afterSlashes t
  | .innerDirs, t =>
    match t with
    | [] => []
    | b :: t => if b = 47 then t :: afterSlashes t else []
  | .trailing, t => (afterLiteral [47] t).flatMap tails
  | .byteIn negated ranges, t =>
    afterByte (fun b => ranges.any (fun r => r.1 ≤ b && b ≤ r.2) != negated) t
  | .oneOf branches, t => if areVoid branches then [t] else restsOfAny branches t

/-- What may be left when the pieces have matched one after another. -/
def rests : List Piece → Bytes → List Bytes
  | [], t => [t]
  | p :: ps, t => distinct ((distinct (p.rests t)).flatMap fun rest => rests ps rest)

/-- What may be left when one of the sequences has matched. A sequence that says
nothing is no choice. -/
def restsOfAny : List (List Piece) → Bytes → List Bytes
  | [], _ => []
  | b :: bs, t => (if isVoid b then [] else rests b t) ++ restsOfAny bs t

end

end RefBook.Glob

namespace RefBook

/-- A pattern for paths. -/
structure Glob where
  pieces : List Glob.Piece
deriving Repr, Inhabited

/-- Whether the pattern fits the whole of a path. Leading directories alone fit
every path. -/
def Glob.isMatch (g : Glob) (path : String) : Bool :=
  match g.pieces with
  | [.leadingDirs] => true
  | pieces => (Glob.rests pieces path.toUTF8.toList).any List.isEmpty

end RefBook
