import RefBook.Json.Basic
import RefBook.Registry.Basic

/-! The modules of a run as structured data. -/

namespace RefBook

def Json.tagged (kind : String) (value : Json) : Json :=
  .record [("kind", .text kind), ("value", value)]

mutual

def Literal.toJson : Literal → Json
  | .none => .record [("kind", .text "none")]
  | .ellipsis => .record [("kind", .text "ellipsis")]
  | .bool b => .tagged "bool" (.bool b)
  | .int n => .tagged "int" (.int n)
  | .float x => .tagged "float" (.float x)
  | .str s => .tagged "str" (.text s)
  | .bytes b => .tagged "bytes" (.list (b.map fun x => .int x.toNat))
  | .tuple items => .tagged "tuple" (.list (literalsToJson items))
  | .list items => .tagged "list" (.list (literalsToJson items))

def literalsToJson : List Literal → List Json
  | [] => []
  | item :: rest => item.toJson :: literalsToJson rest

end

/-- A record with one field for each key. -/
def Dict.toJson {α : Type} (f : α → Json) (d : Dict α) : Json :=
  .record (d.entries.map fun (key, value) => (key, f value))

def Decorator.toJson (d : Decorator) : Json := .record
  [("name", .text d.name), ("args", .ofOption (.list ∘ literalsToJson) d.args),
   ("kwargs", .ofOption (Dict.toJson Literal.toJson) d.kwargs)]

def Parameter.toJson (p : Parameter) : Json := .record
  [("name", .text p.name), ("annotation", .ofOption .text p.type),
   ("default", .ofOption .text p.default)]

def Function.toJson (f : Function) : Json := .record
  [("name", .text f.name),
   ("params", .list (f.params.map Parameter.toJson)),
   ("kwonly_params", .list (f.kwonlyParams.map Parameter.toJson)),
   ("var_positional", .ofOption Parameter.toJson f.varPositional),
   ("var_keyword", .ofOption Parameter.toJson f.varKeyword),
   ("returns", .ofOption .text f.returns),
   ("docstring", .ofOption .text f.docstring),
   ("decorators", .list (f.decorators.map Decorator.toJson)),
   ("is_async", .bool f.isAsync),
   ("receiver", .bool f.receiver)]

def Attribute.toJson (a : Attribute) : Json := .record
  [("name", .text a.name), ("type_name", .text a.type), ("default", .ofOption .text a.default)]

def Class.toJson (c : Class) : Json := .record
  [("name", .text c.name),
   ("bases", .texts c.bases),
   ("fields", .list (c.attributes.map Attribute.toJson)),
   ("methods", .list (c.methods.map Function.toJson)),
   ("decorators", .list (c.decorators.map Decorator.toJson)),
   ("docstring", .ofOption .text c.docstring)]

def Variable.toJson (v : Variable) : Json := .record
  [("name", .text v.name), ("value", .ofOption .text v.value),
   ("annotation", .ofOption .text v.type)]

def TypeAlias.toJson (a : TypeAlias) : Json := .record
  [("name", .text a.name), ("type_name", .text a.type)]

def ImportedName.toJson (n : ImportedName) : Json := .record
  [("name", .text n.name), ("alias", .ofOption .text n.asName)]

def Import.toJson : Import → Json
  | .whole module asName => .record
    [("kind", .text "naked"), ("module", .text module), ("alias", .ofOption .text asName)]
  | .selected module names level => .record
    [("kind", .text "from"), ("module", .ofOption .text module),
     ("names", .list (names.map ImportedName.toJson)), ("level", .int level)]

def Symbol.toJson : Symbol → Json
  | .class c => .tagged "class" c.toJson
  | .function f => .tagged "function" f.toJson
  | .variable v => .tagged "variable" v.toJson
  | .typeAlias a => .tagged "alias" a.toJson
  | .imported i => .tagged "import" i.toJson

def Module.toJson (m : Module) : Json := .record
  [("name", .text m.name),
   ("docstring", .ofOption .text m.docstring),
   ("classes", .list (m.classes.map Class.toJson)),
   ("functions", .list (m.functions.map Function.toJson)),
   ("variables", .list (m.vars.map Variable.toJson)),
   ("aliases", .list (m.aliases.map TypeAlias.toJson)),
   ("imports", .list (m.imports.map Import.toJson)),
   ("exports", .texts m.exports)]

def Registry.toJson (r : Registry) : Json := r.modules.toJson Module.toJson

end RefBook
