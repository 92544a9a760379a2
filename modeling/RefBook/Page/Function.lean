import RefBook.Page.Call
import RefBook.Signature

/-! The block of a function or a method: its call, and below it what its
documentation says. -/

namespace RefBook.Page

def openBlock : String := "<div style=\"padding-left: 20px;\">\n\n"

def closeBlock : String := "</div>\n\n"

/-- A part of a page under its heading, left out if it is empty. -/
def listed (heading : String) (items : List String) (ending : String) : String :=
  if items.isEmpty then "" else heading ++ String.join items ++ ending

/-- A paragraph, left out if it is empty. -/
def paragraph (text : String) : String := if text.isEmpty then "" else text ++ "\n\n"

/-- The line of one argument. What the source declares wins over what the
documentation says. -/
def argumentLine (docs : Dict ParamDoc) (label : String) (p : Parameter) : String :=
  let doc := docs.get? label <|> docs.get? p.name
  let type := p.type <|> doc.bind (·.type)
  let default := p.default <|> doc.bind (·.default)
  "- `" ++ label ++ type.elim "" (fun t => "(" ++ t ++ ")") ++ "`" ++
    (doc.bind (·.description)).elim "" (": " ++ ·) ++
    default.elim "" (fun d => " (_default: " ++ d ++ "_)")

/-- The arguments in the order in which they are listed: starred ones last. -/
def argumentLines (docs : Dict ParamDoc) (f : Function) : List String :=
  (f.arguments ++ f.kwonlyParams).map (fun p => argumentLine docs p.name p) ++
    (f.varPositional.map fun p => argumentLine docs ("*" ++ p.name) p).toList ++
    (f.varKeyword.map fun p => argumentLine docs ("**" ++ p.name) p).toList

/-- The line of one exception. -/
def raisesLine (r : RaisesDoc) : String :=
  "-" ++ r.type.elim "" (fun t => " `" ++ t ++ "`") ++
    r.description.elim "" (fun d => (if r.type.isSome then ":" else "") ++ " " ++ d)

/-- What the documentation says of the function; `extra` documents parameters
that the function's own text leaves out. -/
def docsText (f : Function) (extra : Option Signature) : String :=
  let own := Signature.parse (f.docstring.getD "")
  let docs := own.mergedParams extra
  paragraph own.summary ++
    listed "**Arguments**:\n\n" ((argumentLines docs f).map (· ++ "\n")) "\n" ++
    listed "**Returns**:\n\n" (own.returns.map fun r => "- " ++ r ++ "\n") "\n" ++
    listed "**Raises**:\n\n" (own.raises.map fun r => raisesLine r ++ "\n") "\n"

def functionText (o : Options) (extra : Option Signature) (f : Function) : String :=
  callText o.signatureWidth f ++ openBlock ++
    (if f.docstring.isSome || extra.isSome then docsText f extra else "") ++ closeBlock

end RefBook.Page
