import RefBook.Docstring.Keyword
import RefBook.Docstring.Problem
import RefBook.Text.Group

/-! The titled section dialect: a title such as `Args:` alone on a line, and
below it the items of the section, indented. -/

namespace RefBook.Docstring.Google

/-- What a section is about. -/
inductive Subject
  | params
  | raises
  | results
  | notes
deriving DecidableEq, Repr

structure Section where
  title : String
  key : String
  subject : Subject
deriving DecidableEq, Repr

def sections : List Section := [
  ⟨"Arguments", "param", .params⟩,
  ⟨"Args", "param", .params⟩,
  ⟨"Parameters", "param", .params⟩,
  ⟨"Params", "param", .params⟩,
  ⟨"Raises", "raises", .raises⟩,
  ⟨"Exceptions", "raises", .raises⟩,
  ⟨"Except", "raises", .raises⟩,
  ⟨"Attributes", "attribute", .params⟩,
  ⟨"Example", "examples", .notes⟩,
  ⟨"Examples", "examples", .notes⟩,
  ⟨"Returns", "returns", .results⟩,
  ⟨"Yields", "yields", .results⟩]

/-- The blanks that may follow a title on its line. -/
def isTitleBlank (c : Char) : Bool :=
  c == ' ' || c == '\t' || c == '\r' || c == '\x0c' || c == '\x0b'

/-- Whether a line is the title of the section. -/
def Section.isTitle (s : Section) (line : List Char) : Bool :=
  let title := s.title.toList ++ [':']
  title.isPrefixOf line && (line.drop title.length).all isTitleBlank

/-- The section that a line opens. -/
def section? (line : List Char) : Option Section := sections.find? (·.isTitle line)

/-- The longest start of the first line that ends in a visible character and is
followed, blanks aside, by a closing bracket. -/
def typeBeforeBracket? : List Char → Option (List Char)
  | [] => none
  | c :: t =>
    if c = '\n' then none
    else match typeBeforeBracket? t with
      | some rest => some (c :: rest)
      | none =>
        if !Text.isSpace c && (Text.trimStart t).head? == some ')' then some [c] else none

/-- The type in brackets that a text starts with, blanks aside. -/
def bracketedType? (t : List Char) : Option (List Char) :=
  match Text.trimStart t with
  | '(' :: rest => typeBeforeBracket? (Text.trimStart rest)
  | _ => none

/-- The shortest name, not empty and on one line, that a type in brackets follows. -/
def nameThenType? : List Char → Option (List Char × List Char)
  | [] => none
  | c :: t =>
    if c = '\n' then none
    else match bracketedType? t with
      | some type => some ([c], type)
      | none => (nameThenType? t).map fun (name, type) => (c :: name, type)

/-- The name and the bracketed type of an item. Leading blanks belong to the
name only if it would be empty without them. -/
def nameAndType? : List Char → Option (List Char × List Char)
  | [] => none
  | c :: t =>
    if Text.isSpace c then nameAndType? t <|> nameThenType? (c :: t)
    else nameThenType? (c :: t)

/-- The longest start of a text, not empty, that is followed by a full stop. -/
def beforeLastStop? : List Char → Option (List Char)
  | [] => none
  | c :: t =>
    match beforeLastStop? t with
    | some rest => some (c :: rest)
    | none => if t.head? == some '.' then some [c] else none

/-- What stands between the last `. Defaults to ` and the last full stop. -/
def defaultInLine? : List Char → Option (List Char)
  | [] => none
  | c :: t =>
    match defaultInLine? t with
    | some value => some value
    | none =>
      let mark := ". Defaults to ".toList
      if mark.isPrefixOf (c :: t) then beforeLastStop? ((c :: t).drop mark.length) else none

/-- The default value that the first line of a description names. -/
def default? (description : List Char) : Option String :=
  (defaultInLine? (description.takeWhile (· != '\n'))).map String.ofList

/-- A text without the given end, if it has it. -/
def dropSuffix? (ending t : List Char) : Option (List Char) :=
  if ending.isSuffixOf t then some (t.take (t.length - ending.length)) else none

/-- A bracketed type; `, optional` or a question mark at its end makes the
parameter optional. -/
def typeAndOptional (type : List Char) : List Char × Bool :=
  match dropSuffix? ", optional".toList type with
  | some rest => (rest, true)
  | none =>
    match dropSuffix? ['?'] type with
    | some rest => (rest, true)
    | none => (type, false)

def paramEntry (args : List String) (head description : List Char) : Entry :=
  let (name, type, optional) := match nameAndType? head with
    | some (name, type) =>
      let (type, optional) := typeAndOptional type
      (name, some (String.ofList type), some optional)
    | none => (head, none, none)
  .param
    { args, description := some (String.ofList description), name := String.ofList name
      type, optional, default := default? description }

/-- An item of the form `head: description`. -/
def itemEntry (s : Section) (head description : List Char) : Entry :=
  let args := [s.key, String.ofList head]
  let text := some (String.ofList description)
  match s.subject with
  | .params => paramEntry args head description
  | .raises => .raises { args, description := text, type := some (String.ofList head) }
  | .results => .returns
      { args, description := text, type := some (String.ofList head)
        generator := decide (s.key ∈ Keyword.yields), name := none }
  | .notes => .note { args, description := text }

/-- Reads an item of the form `head: description`. -/
def item (s : Section) (t : List Char) : Except Cause Entry :=
  match Text.cut? ':' t with
  | none => .error (.missingColon t)
  | some (head, rest) =>
    let description := match rest with
      | ' ' :: rest => rest
      | rest => rest
    .ok (itemEntry s head (Text.trimLineFeeds (cleanTail description)))

/-- A section that is one entry as a whole. -/
def wholeEntry (s : Section) (t : List Char) : Entry :=
  let args := [s.key]
  let description := nonEmpty? t
  match s.subject with
  | .results => .returns
      { args, description, type := none, generator := decide (s.key ∈ Keyword.yields)
        name := none }
  | .raises => .raises { args, description, type := none }
  | .params | .notes => .note { args, description }

/-- Whether a result is written as `type: description`: its first word ends
with its first colon, or its first colon follows a closing bracket. -/
def hasTypeHead (t : List Char) : Bool :=
  let notColon := fun c : Char => c != ':'
  let word := (Text.trimStart t).takeWhile fun c => c != ':' && !Text.isSpace c
  (!word.isEmpty && ((Text.trimStart t).drop word.length).head? == some ':') ||
    ((t.dropWhile notColon).head? == some ':' && (t.takeWhile notColon).getLast? == some ']')

/-- Whether an item starts here: the indentation, then a visible character. -/
def startsItem (indent t : List Char) : Bool :=
  indent.isPrefixOf t && (t.drop indent.length).head?.any fun c => !Text.isSpace c

/-- Splits a text where an item starts, `skip` counting the characters of the
indentation still to leave out: what precedes the first item, and the items. -/
def itemsFrom (indent : List Char) : Nat → Bool → List Char → List Char × List (List Char)
  | _, _, [] => ([], [])
  | skip + 1, _, c :: t => itemsFrom indent skip (c == '\n') t
  | 0, lineStart, c :: t =>
    if lineStart && startsItem indent (c :: t) then
      if indent.isEmpty then
        let (text, items) := itemsFrom indent 0 (c == '\n') t
        ([], (c :: text) :: items)
      else
        let (text, items) := itemsFrom indent (indent.length - 1) (c == '\n') t
        ([], text :: items)
    else
      let (text, items) := itemsFrom indent 0 (c == '\n') t
      (c :: text, items)

/-- The items of a section: each starts at the section's indentation, that of
its first line. -/
def splitItems (title : String) (body : List Char) : Except Cause (List (List Char)) :=
  match (itemsFrom (body.takeWhile Text.isSpace) 0 true body).2 with
  | [] => .error (.emptySection title body)
  | items => .ok (items.map Text.trimLineFeeds)

/-- The body of a section: the lines below its title up to one that starts in
the first column. -/
def sectionBody (below : List (List Char)) : List Char :=
  Text.trimLineFeeds (Text.unlines (below.takeWhile fun line => !line.head?.any (!Text.isSpace ·)))

/-- Records a section's body. A title that comes again keeps its first place
and has its last body. -/
def record (s : Section) (body : List Char) :
    List (Section × List Char) → List (Section × List Char)
  | [] => [(s, body)]
  | (s', body') :: rest =>
    if s'.title = s.title then (s', body) :: rest else (s', body') :: record s body rest

/-- The entries of one section. -/
def sectionEntries (s : Section) (body : List Char) : Except Cause (List Entry) :=
  match s.subject with
  | .params | .raises => do (← splitItems s.title body).mapM (item s)
  | .notes => .ok [wholeEntry s (Text.clean body)]
  | .results => do
    let t := Text.clean body
    if hasTypeHead t then return [← item s t] else return [wholeEntry s t]

/-- Removes the margin. A title on the first line stands at the margin of the
lines below it, so it must not be left out when that is measured. -/
def dedent (t : List Char) : List Char :=
  let start := Text.trimStart t
  if (section? (start.takeWhile (· != '\n'))).isSome then Text.clean ('\n' :: start)
  else Text.clean t

/-- The text before the first title: its lines, each with its line feed, or the
whole text where there is no title. -/
def leadText (lead : List (List Char)) (titled : Bool) : List Char :=
  if titled then lead.flatMap (· ++ ['\n']) else Text.unlines lead

def parse (t : List Char) : Except Cause Docstring := do
  let (lead, groups) := Text.groupUnder section? (Text.lines (dedent t))
  let bodies := groups.foldl (fun acc (s, below) => record s (sectionBody below) acc) []
  let entries ← bodies.mapM fun (s, body) => sectionEntries s body
  return ofDescription (leadText lead (!groups.isEmpty)) entries.flatten (some .google)

end RefBook.Docstring.Google
