import RefBook.Literal

/-! The symbol table of a source file. Annotations and default values are kept
as source text. -/

namespace RefBook

structure Parameter where
  name : String
  type : Option String
  default : Option String
deriving DecidableEq, Repr, Inhabited

structure Function where
  name : String
  /-- The parameters before the star, in order. -/
  params : List Parameter
  /-- The parameters that are passed by name only, in order. -/
  kwonlyParams : List Parameter
  varPositional : Option Parameter
  varKeyword : Option Parameter
  returns : Option String
  docstring : Option String
  decorators : List Decorator
  isAsync : Bool
  /-- Whether the first parameter is the object or class a method is called on. -/
  receiver : Bool
deriving Inhabited

/-- The positional parameters that a caller passes. -/
def Function.arguments (f : Function) : List Parameter :=
  if f.receiver then f.params.drop 1 else f.params

/-- An annotated attribute of a class. -/
structure Attribute where
  name : String
  type : String
  default : Option String
deriving DecidableEq, Repr, Inhabited

structure Class where
  name : String
  bases : List String
  attributes : List Attribute
  methods : List Function
  decorators : List Decorator
  docstring : Option String
deriving Inhabited

structure TypeAlias where
  name : String
  type : String
deriving DecidableEq, Repr, Inhabited

structure Variable where
  name : String
  value : Option String
  type : Option String
deriving DecidableEq, Repr, Inhabited

/-- A name that a `from` import takes over. -/
structure ImportedName where
  name : String
  /-- What it is called instead. -/
  asName : Option String
deriving DecidableEq, Repr, Inhabited

/-- The name it has in the importing module. -/
def ImportedName.bound (n : ImportedName) : String := n.asName.getD n.name

inductive Import
  /-- `import module` or `import module as asName`. -/
  | whole (module : String) (asName : Option String)
  /-- `from module import names`, with `level` dots before the module. -/
  | selected (module : Option String) (names : List ImportedName) (level : Nat)
deriving DecidableEq, Repr, Inhabited

/-- Whether the import gives `name` a meaning in the importing module. -/
def Import.binds (name : String) : Import → Bool
  | .whole module asName => asName.getD module == name
  | .selected _ names _ => names.any (·.bound == name)

inductive Symbol
  | class (c : Class)
  | function (f : Function)
  | variable (v : Variable)
  | typeAlias (a : TypeAlias)
  | imported (i : Import)
deriving Inhabited

def Symbol.isImport : Symbol → Bool
  | .imported _ => true
  | _ => false

structure Module where
  name : String
  docstring : Option String
  classes : List Class
  functions : List Function
  vars : List Variable
  aliases : List TypeAlias
  imports : List Import
  exports : List String
deriving Inhabited

namespace Module

/-- What a package's own module is called inside the package. -/
def packageSuffix : String := ".__init__"

/-- A module name without the mark of a package. -/
def displayNameOf (name : String) : String :=
  let cs := name.toList
  let suffix := packageSuffix.toList
  if suffix.isSuffixOf cs then String.ofList (cs.take (cs.length - suffix.length)) else name

def displayName (m : Module) : String := displayNameOf m.name

/-- Whether the module is a package's own one. -/
def isPackage (m : Module) : Bool :=
  packageSuffix.toList.isSuffixOf m.name.toList || m.name == "__init__"

/-- The symbol of that name: classes come first, then functions, variables and
type aliases, and imports last. -/
def lookup (m : Module) (name : String) : Option Symbol :=
  (m.classes.find? (·.name == name)).map .class <|>
  (m.functions.find? (·.name == name)).map .function <|>
  (m.vars.find? (·.name == name)).map .variable <|>
  (m.aliases.find? (·.name == name)).map .typeAlias <|>
  (m.imports.find? (·.binds name)).map .imported

/-- Whether a symbol of the same kind and name is there already; imports are
told apart as a whole. -/
def hasLike (m : Module) : Symbol → Bool
  | .class c => m.classes.any (·.name == c.name)
  | .function f => m.functions.any (·.name == f.name)
  | .variable v => m.vars.any (·.name == v.name)
  | .typeAlias a => m.aliases.any (·.name == a.name)
  | .imported i => m.imports.contains i

/-- Adds a symbol at the end of the list of its kind. -/
def append (m : Module) : Symbol → Module
  | .class c => { m with classes := m.classes ++ [c] }
  | .function f => { m with functions := m.functions ++ [f] }
  | .variable v => { m with vars := m.vars ++ [v] }
  | .typeAlias a => { m with aliases := m.aliases ++ [a] }
  | .imported i => { m with imports := m.imports ++ [i] }

/-- Adds a symbol, unless one like it is there. -/
def push (m : Module) (s : Symbol) : Module := if m.hasLike s then m else m.append s

end Module

end RefBook
