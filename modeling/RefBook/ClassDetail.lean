import RefBook.Docstring.Detect

/-! The fields of a class as its documentation tells them. -/

namespace RefBook

/-- Where a documented field lives. -/
inductive FieldKind
  | ofInstance
  | ofClass
  | ofModule
  | unknown
deriving DecidableEq, Repr, Inhabited

namespace FieldKind

def name : FieldKind → String
  | .ofInstance => "instance"
  | .ofClass => "class"
  | .ofModule => "module"
  | .unknown => "unknown"

def ofTag : String → FieldKind
  | "ivar" => .ofInstance
  | "cvar" => .ofClass
  | "var" => .ofModule
  | _ => .unknown

end FieldKind

/-- The tags that introduce a field. -/
def fieldTags : List String := ["ivar", "cvar", "var"]

structure Field where
  name : String
  type : Option String
  description : Option String
  kind : FieldKind
deriving DecidableEq, Repr, Inhabited

/-- The documented fields of a class, in order of their first mention. -/
structure ClassDetail where
  fields : List Field
deriving DecidableEq, Repr, Inhabited

namespace ClassDetail

def empty : ClassDetail := ⟨[]⟩

def field? (d : ClassDetail) (name : String) : Option Field := d.fields.find? (·.name == name)

/-- Changes the first field of that name. -/
def updateFirst (name : String) (f : Field → Field) : List Field → List Field
  | [] => []
  | x :: rest => if x.name = name then f x :: rest else x :: updateFirst name f rest

/-- What one entry tells: an attribute is a new field, a type belongs to a field
seen before, and a variable is a new field or describes one seen before. -/
def addEntry (d : ClassDetail) (e : Docstring.Entry) : ClassDetail :=
  match e.key, e with
  | "attribute", .param p => ⟨d.fields ++ [⟨p.name, p.type, p.description, .unknown⟩]⟩
  | "type", .param p => ⟨updateFirst p.name (fun f => { f with type := p.type }) d.fields⟩
  | key, e =>
    if key ∈ fieldTags then
      match e.args with
      | _ :: name :: more =>
        if (d.field? name).isSome then
          ⟨updateFirst name (fun f => { f with description := e.description }) d.fields⟩
        else ⟨d.fields ++ [⟨name, more.head?, e.description, .ofTag key⟩]⟩
      | _ => d
    else d

def addDocstring (d : ClassDetail) (docs : String) : ClassDetail :=
  (Docstring.parse docs.toList).entries.foldl addEntry d

end ClassDetail

end RefBook
