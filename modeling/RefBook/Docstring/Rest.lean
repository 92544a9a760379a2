import RefBook.Docstring.Keyword
import RefBook.Docstring.Marker
import RefBook.Docstring.Problem
import RefBook.Unicode.Word

/-! The field list dialect: `:key arguments: description`. The types of
parameters and results may stand in fields of their own, anywhere among the
others. -/

namespace RefBook.Docstring.Rest

/-- What follows the last occurrence of `mark` that has anything after it. -/
def afterLast? (mark : List Char) : List Char → Option (List Char)
  | [] => none
  | c :: t =>
    match afterLast? mark t with
    | some rest => some rest
    | none =>
      if mark.isPrefixOf (c :: t) then
        match (c :: t).drop mark.length with
        | [] => none
        | rest => some rest
      else none

/-- The default value a description names at its end. -/
def trailingDefault? (description : List Char) : Option String :=
  (afterLast? "defaults to ".toList description).map fun value =>
    String.ofList (Text.dropEndWhile (· == '.') value)

/-- The characters of a version after its first point. Case does not matter, so
the two letters whose case variants are Latin belong to them. -/
def isVersionChar (c : Char) : Bool :=
  c.isAlphanum || c == '.' || c == '\u017F' || c == '\u212A'

/-- A version at the start of a deprecation note, and the rest of its line. -/
def versionAndText? (t : List Char) : Option (List Char × List Char) :=
  let (v, t) := match t with
    | c :: rest => if c == 'v' || c == 'V' then ([c], rest) else ([], t)
    | [] => ([], [])
  let major := t.takeWhile Unicode.isDigit
  match t.dropWhile Unicode.isDigit with
  | '.' :: t =>
    let minor := t.takeWhile isVersionChar
    match t.dropWhile isVersionChar with
    | ' ' :: t =>
      let text := t.takeWhile (· != '\n')
      if major.isEmpty || minor.isEmpty || text.isEmpty then none
      else some (v ++ major ++ '.' :: minor, text)
    | _ => none
  | _ => none

/-- A type as written in a parameter field; a question mark makes the parameter
optional. -/
def typeAndOptional (type : String) : String × Bool :=
  match type.toList.reverse with
  | '?' :: rest => (String.ofList rest.reverse, true)
  | _ => (type, false)

/-- The type in a result or exception field. -/
def typeArgument? (key : String) : List String → Except Cause (Option String)
  | [] => .ok none
  | [type] => .ok (some type)
  | _ => .error (.typeArguments key)

/-- A field other than a type field. -/
def entry (key : String) (arguments : List String) (description : List Char) :
    Except Cause Entry :=
  let args := key :: arguments
  let text := String.ofList description
  if key ∈ Keyword.params then
    match arguments with
    | [name] => .ok (.param
        { args, description := some text, name, type := none, optional := none
          default := trailingDefault? description })
    | [type, name] =>
      let (type, optional) := typeAndOptional type
      .ok (.param
        { args, description := some text, name, type := some type, optional := some optional
          default := trailingDefault? description })
    | _ => .error (.parameterArguments key)
  else if key ∈ Keyword.results then do
    let type ← typeArgument? key arguments
    return .returns
      { args, description := some text, type, generator := decide (key ∈ Keyword.yields)
        name := none }
  else if key ∈ Keyword.deprecations then
    match versionAndText? description with
    | some (version, rest) => .ok (.deprecation
        { args, description := some (String.ofList rest)
          version := some (String.ofList version) })
    | none => .ok (.deprecation { args, description := some text, version := none })
  else if key ∈ Keyword.raises then do
    let type ← typeArgument? key arguments
    return .raises { args, description := some text, type }
  else .ok (.note { args, description := some text })

/-- One field of a text. -/
inductive Field
  /-- The type of the parameter `name`. -/
  | type (name : String) (type : String)
  /-- The type of the result, of the result `name` if one is given. -/
  | resultType (name : Option String) (type : String)
  | entry (e : Entry)
deriving DecidableEq, Repr

/-- Reads one field. -/
def field (chunk : List Char) : Except Cause Field :=
  match Text.cut? ':' (chunk.dropWhile (· == ':')) with
  | none => .error (.unreadable chunk)
  | some (head, rest) =>
    let description := cleanTail (Text.trim rest)
    match (Text.words head).map String.ofList with
    | [] => .error (.unnamed chunk)
    | ["type", name] => .ok (.type name (String.ofList description))
    | ["rtype"] => .ok (.resultType none (String.ofList description))
    | ["rtype", name] => .ok (.resultType (some name) (String.ofList description))
    | key :: arguments => (entry key arguments description).map .entry

/-- The last type given to the parameter `name`. -/
def typeOf? (fields : List Field) (name : String) : Option String :=
  fields.reverse.findSome? fun
    | .type n type => if n = name then some type else none
    | _ => none

/-- The result types in the order of the last mention of each name. -/
def resultTypes : List Field → List (Option String × String)
  | [] => []
  | .resultType name type :: rest =>
    let later := resultTypes rest
    if later.any (·.1 == name) then later else (name, type) :: later
  | _ :: rest => resultTypes rest

/-- The type of the unnamed result. -/
def resultType? (fields : List Field) (name : Option String) : Option String :=
  (resultTypes fields).findSome? fun (n, type) => if n = name then some type else none

/-- Completes an entry by the types that stand in fields of their own. -/
def withType (fields : List Field) : Entry → Entry
  | .param p => .param { p with type := p.type <|> typeOf? fields p.name }
  | .returns r => .returns { r with type := r.type <|> resultType? fields r.name }
  | e => e

def entries (fields : List Field) : List Entry :=
  let described := fields.filterMap fun
    | .entry e => some (withType fields e)
    | _ => none
  if described.any (·.returns?.isSome) then described
  else described ++ (resultTypes fields).map fun (name, type) =>
    .returns { args := [], description := none, type := some type, generator := false, name }

def parse (t : List Char) : Except Cause Docstring := do
  let (description, rest) := splitAtMarker ':' (Text.clean t)
  let fields ← (markerChunks ':' rest).mapM field
  return ofDescription description (entries fields) (some .rest)

end RefBook.Docstring.Rest
