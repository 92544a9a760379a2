import RefBook.Text.Margin

/-! A documentation text taken apart: a summary line, a longer description and
the entries for parameters, results, exceptions and other subjects. Every
entry keeps the words it was introduced by, its key first. -/

namespace RefBook

/-- The dialects a documentation text may be written in. -/
inductive Docstring.Style
  | rest
  | google
  | numpy
  | epydoc
deriving DecidableEq, Repr, Inhabited

namespace Docstring

/-- The dialects in the order in which detection prefers them. -/
def Style.all : List Style := [.rest, .google, .numpy, .epydoc]

def Style.name : Style → String
  | .rest => "rest"
  | .google => "google"
  | .numpy => "numpy"
  | .epydoc => "epydoc"

structure Param where
  args : List String
  description : Option String
  name : String
  type : Option String
  optional : Option Bool
  default : Option String
deriving DecidableEq, Repr, Inhabited

/-- A returned value, or a yielded one when `generator` is set. -/
structure Returns where
  args : List String
  description : Option String
  type : Option String
  generator : Bool
  name : Option String
deriving DecidableEq, Repr, Inhabited

structure Raises where
  args : List String
  description : Option String
  type : Option String
deriving DecidableEq, Repr, Inhabited

structure Deprecation where
  args : List String
  description : Option String
  version : Option String
deriving DecidableEq, Repr, Inhabited

/-- An entry of no special kind. -/
structure Note where
  args : List String
  description : Option String
deriving DecidableEq, Repr, Inhabited

inductive Entry
  | param (p : Param)
  | returns (r : Returns)
  | raises (r : Raises)
  | deprecation (d : Deprecation)
  | note (n : Note)
deriving DecidableEq, Repr, Inhabited

namespace Entry

def args : Entry → List String
  | param p => p.args
  | returns r => r.args
  | raises r => r.args
  | deprecation d => d.args
  | note n => n.args

def description : Entry → Option String
  | param p => p.description
  | returns r => r.description
  | raises r => r.description
  | deprecation d => d.description
  | note n => n.description

/-- The word that introduced the entry. -/
def key (e : Entry) : String := e.args.headD ""

def param? : Entry → Option Param
  | param p => some p
  | _ => none

def returns? : Entry → Option Returns
  | returns r => some r
  | _ => none

def raises? : Entry → Option Raises
  | raises r => some r
  | _ => none

def deprecation? : Entry → Option Deprecation
  | deprecation d => some d
  | _ => none

end Entry

end Docstring

structure Docstring where
  summary : Option String
  body : Option String
  blankAfterSummary : Bool
  blankAfterBody : Bool
  entries : List Docstring.Entry
  style : Option Docstring.Style
deriving DecidableEq, Repr, Inhabited

namespace Docstring

def params (d : Docstring) : List Param := d.entries.filterMap Entry.param?

/-- The first entry for a returned or yielded value. -/
def returns (d : Docstring) : Option Returns := d.entries.findSome? Entry.returns?

def raises (d : Docstring) : List Raises := d.entries.filterMap Entry.raises?

def deprecation (d : Docstring) : Option Deprecation := d.entries.findSome? Entry.deprecation?

/-- A text, unless it is empty. -/
def nonEmpty? (t : List Char) : Option String :=
  if t.isEmpty then none else some (String.ofList t)

/-- A text without surrounding white space, unless nothing remains. -/
def trimmed? (t : List Char) : Option String := nonEmpty? (Text.trim t)

/-- The docstring whose text before its entries is `t`: its first line is the
summary, the rest its body. -/
def ofDescription (t : List Char) (entries : List Entry) (style : Option Style) : Docstring :=
  match Text.cut? '\n' t with
  | none => ⟨nonEmpty? t, none, false, false, entries, style⟩
  | some (summary, body) =>
    { summary := nonEmpty? summary
      body := trimmed? body
      blankAfterSummary := ['\n'].isPrefixOf body
      blankAfterBody := ['\n', '\n'].isSuffixOf body
      entries
      style }

/-- The first line of a description as it stands, over the cleaned rest. -/
def cleanTail (t : List Char) : List Char :=
  match Text.cut? '\n' t with
  | none => t
  | some (first, rest) => first ++ '\n' :: Text.clean rest

end Docstring

end RefBook
