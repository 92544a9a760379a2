import RefBook.Docstring.Marker
import RefBook.Docstring.Problem
import RefBook.Docstring.Rest

/-! The tag dialect: `@key arguments: description`. The type and the description
of one name may stand in different tags. -/

namespace RefBook.Docstring.Epydoc

/-- The families of tags. -/
inductive Family
  | param
  | raise
  | result
  | note
deriving DecidableEq, Repr

structure Tag where
  family : Family
  key : String
  args : List String
  description : List Char
deriving DecidableEq, Repr

/-- Characters that start a name: from `A` to `z`, with what lies between the
cases. -/
def isNameStart (c : Char) : Bool := 'A' ≤ c && c ≤ 'z'

def isNameChar (c : Char) : Bool := isNameStart c || c.isDigit

/-- What a head matched: its key, its arguments and the text after its colon. -/
structure Head where
  key : List Char
  args : List (List Char)
  rest : List Char

/-- White space and a name, which may end in a question mark. -/
def argument? (t : List Char) : Option (List Char × List Char) :=
  match t.takeWhile Text.isSpace, t.dropWhile Text.isSpace with
  | _ :: _, c :: t =>
    if isNameStart c then
      let name := c :: t.takeWhile isNameChar
      match t.dropWhile isNameChar with
      | '?' :: rest => some (name ++ ['?'], rest)
      | rest => some (name, rest)
    else none
  | _, _ => none

/-- As many arguments as there are, at most `n`. -/
def arguments : Nat → List Char → List (List Char) × List Char
  | 0, t => ([], t)
  | n + 1, t =>
    match argument? t with
    | none => ([], t)
    | some (name, rest) =>
      let (more, rest) := arguments n rest
      (name :: more, rest)

/-- The text after the colon it starts with. -/
def afterColon? : List Char → Option (List Char)
  | ':' :: t => some t
  | _ => none

/-- The first of the keys that the text starts with, and the text after it. -/
def keyed? (keys : List String) (t : List Char) : Option (List Char × List Char) :=
  keys.findSome? fun key =>
    if key.toList.isPrefixOf t then some (key.toList, t.drop key.length) else none

def paramHead? (t : List Char) : Option Head := do
  let (key, t) ← keyed? ["param", "keyword", "type"] t
  let (name, t) ← argument? t
  return ⟨key, [name], ← afterColon? t⟩

def raiseHead? (t : List Char) : Option Head := do
  let (_, t) ← keyed? ["raise"] t
  match argument? t with
  | some (name, t) => return ⟨[], [name], ← afterColon? t⟩
  | none => return ⟨[], [], ← afterColon? t⟩

def resultHead? (t : List Char) : Option Head := do
  let (key, t) ← keyed? ["return", "rtype", "yield", "ytype"] t
  return ⟨key, [], ← afterColon? t⟩

def noteHead? : List Char → Option Head
  | [] => none
  | c :: t =>
    if isNameStart c && t.head?.any isNameChar then do
      let key := c :: t.takeWhile isNameChar
      let (args, rest) := arguments t.length (t.dropWhile isNameChar)
      return ⟨key, args, ← afterColon? rest⟩
    else none

/-- The first place where a head matches. -/
def search? (head? : List Char → Option Head) : List Char → Option Head
  | [] => none
  | c :: t => head? (c :: t) <|> search? head? t

/-- The head forms in the order in which they are tried on a whole chunk. -/
def heads : List (Family × (List Char → Option Head)) :=
  [(.param, paramHead?), (.raise, raiseHead?), (.result, resultHead?), (.note, noteHead?)]

/-- Keys that no note may have. -/
def reserved : List String := ["param", "keyword", "type", "return", "rtype"]

/-- Reads one tag. -/
def tag (chunk : List Char) : Except Cause Tag :=
  match heads.findSome? fun (family, head?) => (search? head? chunk).map (family, ·) with
  | none => .error (.unreadable chunk)
  | some (family, head) =>
    let key := String.ofList head.key
    if family = .note ∧ key ∈ reserved then .error (.reservedTag chunk)
    else .ok
      { family, key, args := head.args.map String.ofList
        description := cleanTail (Text.trim head.rest) }

/-- The name that a parameter or result tag tells about. -/
def Tag.subject? (t : Tag) : Option String :=
  match t.family with
  | .param | .result => some (t.args.headD "return")
  | .raise | .note => none

/-- Whether the tag gives a type. -/
def Tag.isType (t : Tag) : Bool := t.key ∈ ["type", "rtype", "ytype"]

/-- Whether the tag is about a yielded value. -/
def Tag.isYield (t : Tag) : Bool := t.key ∈ ["yield", "ytype"]

/-- The last text that a tag gives for the name, as its type or as its description. -/
def textOf? (tags : List Tag) (type : Bool) (name : String) : Option (List Char) :=
  tags.reverse.findSome? fun t =>
    if t.subject? = some name ∧ t.isType = type then some t.description else none

/-- The result tags. -/
def results (tags : List Tag) : List Tag := tags.filter (·.family = .result)

/-- Whether the result is yielded: its first tag decides. -/
def yielded (tags : List Tag) : Bool := (results tags).head?.any (·.isYield)

/-- A type; question marks at its end make the parameter optional. -/
def typeAndOptional (type : List Char) : List Char × Bool :=
  if type.getLast? == some '?' then (Text.dropEndWhile (· == '?') type, true) else (type, false)

def paramEntry (tags : List Tag) (t : Tag) (name : String) : Entry :=
  let (type, optional) := match textOf? tags true name with
    | some type =>
      let (type, optional) := typeAndOptional type
      (some (String.ofList type), optional)
    | none => (none, false)
  .param
    { args := [t.key, name]
      description := (textOf? tags false name).map String.ofList
      name, type, optional := some optional
      default := Rest.trailingDefault? t.description }

def resultEntry (tags : List Tag) (t : Tag) : Entry :=
  .returns
    { args := [t.key]
      description := (textOf? tags false "return").map String.ofList
      type := (textOf? tags true "return").map String.ofList
      generator := yielded tags
      name := none }

/-- The entries of the tags still to read; a name that is `done` has its entry. -/
def entriesFrom (tags : List Tag) : List String → List Tag → List Entry
  | _, [] => []
  | done, t :: rest =>
    match t.family with
    | .param =>
      let name := t.args.headD "return"
      if name ∈ done then entriesFrom tags done rest
      else paramEntry tags t name :: entriesFrom tags (name :: done) rest
    | .result =>
      if "return" ∈ done then entriesFrom tags done rest
      else resultEntry tags t :: entriesFrom tags ("return" :: done) rest
    | .raise =>
      .raises
        { args := t.key :: t.args, description := some (String.ofList t.description)
          type := t.args.head? } :: entriesFrom tags done rest
    | .note =>
      .note { args := t.key :: t.args, description := some (String.ofList t.description) } ::
        entriesFrom tags done rest

def parse (t : List Char) : Except Cause Docstring := do
  let (description, rest) := splitAtMarker '@' (Text.clean t)
  let tags ← (markerChunks '@' rest).mapM tag
  if (results tags).all (·.isYield == yielded tags) then
    return ofDescription description (entriesFrom tags [] tags) (some .epydoc)
  else .error (.conflictingResult "return")

end RefBook.Docstring.Epydoc
