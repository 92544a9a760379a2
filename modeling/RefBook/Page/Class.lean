import RefBook.ClassDetail
import RefBook.Page.Function

/-! The block of a class: its decorators, summary, fields and methods. -/

namespace RefBook.Page

def descriptionText (d : Option String) : String := d.elim "" (" - " ++ ·)

/-- The line of an attribute that the class declares. -/
def attributeLine (detail : ClassDetail) (a : Attribute) : String :=
  "- `" ++ a.name ++ "`: `" ++ a.type ++ "`" ++ a.default.elim "" (fun d => " = `" ++ d ++ "`") ++
    descriptionText ((detail.field? a.name).bind (·.description))

/-- The line of a field that only the documentation mentions. -/
def fieldLine (f : Field) : String :=
  "- `" ++ f.name ++ "`" ++ f.type.elim "" (fun t => ": `" ++ t ++ "`") ++
    descriptionText f.description

/-- The fields shown: those the class declares, then those only its
documentation mentions. -/
def fieldLines (c : Class) (detail : ClassDetail) : List String :=
  (c.attributes.filter fun a => !isPrivate a.name).map (attributeLine detail) ++
    (detail.fields.filter fun f =>
      !isPrivate f.name && !c.attributes.any (·.name == f.name)).map fieldLine

/-- The class documentation tells about the parameters of its initialiser. -/
def methodText (o : Options) (classDocs : Option Signature) (f : Function) : String :=
  functionText o (if f.name = "__init__" then classDocs else none) f

def classText (o : Options) (c : Class) : String :=
  let docs := c.docstring.map Signature.parse
  let detail := ClassDetail.empty.addDocstring (c.docstring.getD "")
  let bases := if c.bases.isEmpty then "" else "(" ++ ", ".intercalate c.bases ++ ")"
  "### `class " ++ c.name ++ bases ++ ":`\n\n" ++ openBlock ++
    paragraph (" ".intercalate (c.decorators.map fun d => "`" ++ d.text ++ "`")) ++
    paragraph (docs.elim "" (·.summary)) ++
    listed "#### Fields\n\n" ((fieldLines c detail).map (· ++ "\n\n")) "" ++
    listed "#### Methods\n\n"
      ((c.methods.filter fun f => o.showsMethod f.name).map (methodText o docs)) "" ++
    closeBlock

end RefBook.Page
