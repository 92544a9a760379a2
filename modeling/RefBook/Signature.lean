import RefBook.Dict
import RefBook.Docstring.Detect

/-! What a documentation text says of a callable, whatever its dialect. -/

namespace RefBook

structure ParamDoc where
  name : String
  type : Option String
  default : Option String
  description : Option String
deriving DecidableEq, Repr, Inhabited

structure RaisesDoc where
  type : Option String
  description : Option String
deriving DecidableEq, Repr, Inhabited

structure Signature where
  params : Dict ParamDoc
  returns : List String
  raises : List RaisesDoc
  summary : String
deriving Inhabited

namespace Signature

/-- Doubles the backslashes, so that escapes in the text stay as written. -/
def doubleBackslashes (t : List Char) : List Char :=
  t.flatMap fun c => if c = '\\' then ['\\', '\\'] else [c]

/-- Whether a parameter name has the form of a path or a call. -/
def isPathLike (name : String) : Bool := name.toList.any fun c => c == '(' || c == '.'

/-- The documentation of a parameter. A name that looks like a path was written
in the place of the type, so the two change places. -/
def paramDoc (p : Docstring.Param) : ParamDoc :=
  match p.type with
  | some type =>
    if isPathLike p.name then ⟨type, some p.name, p.default, p.description⟩
    else ⟨p.name, some type, p.default, p.description⟩
  | none => ⟨p.name, none, p.default, p.description⟩

/-- The signature a docstring describes; of two entries for one parameter the
later counts. -/
def ofDocstring (d : Docstring) : Signature :=
  { params := Dict.ofList ((d.params.map paramDoc).map fun p => (p.name, p))
    returns := (d.returns.bind fun r => r.description <|> r.type).toList
    raises := d.raises.map fun r => ⟨r.type, r.description⟩
    summary := "\n\n".intercalate (d.summary.toList ++ d.body.toList) }

def parse (docs : String) : Signature :=
  ofDocstring (Docstring.parse (doubleBackslashes docs.toList))

def param? (s : Signature) (name : String) : Option ParamDoc := s.params.get? name

def isEmpty (s : Signature) : Bool :=
  s.params.isEmpty && s.returns.isEmpty && s.raises.isEmpty && s.summary.isEmpty

/-- The parameters of `own` over those of `fallback`. -/
def mergedParams (own : Signature) (fallback : Option Signature) : Dict ParamDoc :=
  (fallback.elim ∅ (·.params)).merge own.params

end Signature

end RefBook
