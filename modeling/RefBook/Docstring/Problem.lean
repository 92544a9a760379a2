import RefBook.Docstring.Basic
import RefBook.Text.Quoted

/-! Why a dialect does not accept a documentation text. -/

namespace RefBook.Docstring

inductive Cause
  /-- A field or tag has no readable head. -/
  | unreadable (chunk : List Char)
  /-- A field has no name between its colons. -/
  | unnamed (chunk : List Char)
  /-- A parameter field takes a name, or a type and a name. -/
  | parameterArguments (key : String)
  /-- A result or exception field takes at most a type. -/
  | typeArguments (key : String)
  /-- A section item lacks the colon between its name and its description. -/
  | missingColon (item : List Char)
  /-- A section has no items. -/
  | emptySection (title : String) (body : List Char)
  /-- A tag has the form of a note but the name of another family. -/
  | reservedTag (chunk : List Char)
  /-- A value is said to be both returned and yielded. -/
  | conflictingResult (name : String)
deriving DecidableEq, Repr

def Cause.message : Cause → String
  | .unreadable chunk => "error parsing meta information near \"" ++ String.ofList chunk ++ "\""
  | .unnamed chunk => "empty field name near \"" ++ String.ofList chunk ++ "\""
  | .parameterArguments key => "expected one or two arguments for a " ++ key ++ " keyword"
  | .typeArguments key => "expected one or no arguments for a " ++ key ++ " keyword"
  | .missingColon item => "expected a colon in " ++ String.ofList (Text.quoted item)
  | .emptySection title body =>
    "no specification for \"" ++ title ++ "\": \"" ++ String.ofList body ++ "\""
  | .reservedTag chunk => "error parsing meta keyword near \"" ++ String.ofList chunk ++ "\""
  | .conflictingResult name => "error parsing meta information for \"" ++ name ++ "\""

/-- The dialect that refuses a text, and why. -/
structure Problem where
  style : Style
  cause : Cause
deriving DecidableEq, Repr

def Problem.message (p : Problem) : String :=
  p.style.name ++ " docstring: " ++ p.cause.message

end RefBook.Docstring
