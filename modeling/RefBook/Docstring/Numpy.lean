import RefBook.Docstring.Basic
import RefBook.Text.Group
import RefBook.Unicode.Word

/-! The underlined section dialect: a title, below it a line of as many dashes,
and below that the items of the section. Every text is accepted. -/

namespace RefBook.Docstring.Numpy

/-- What a section is about. -/
inductive Subject
  | text
  | params
  | raises
  | returns
  | yields
  | deprecation
deriving DecidableEq, Repr

structure Section where
  title : String
  key : String
  subject : Subject
deriving DecidableEq, Repr

def sections : List Section := [
  ⟨"Parameters", "param", .params⟩,
  ⟨"Params", "param", .params⟩,
  ⟨"Arguments", "param", .params⟩,
  ⟨"Args", "param", .params⟩,
  ⟨"Other Parameters", "other_param", .params⟩,
  ⟨"Other Params", "other_param", .params⟩,
  ⟨"Receives", "receives", .params⟩,
  ⟨"Receive", "receives", .params⟩,
  ⟨"Raises", "raises", .raises⟩,
  ⟨"Raise", "raises", .raises⟩,
  ⟨"Warns", "warns", .raises⟩,
  ⟨"Warn", "warns", .raises⟩,
  ⟨"Attributes", "attribute", .params⟩,
  ⟨"Attribute", "attribute", .params⟩,
  ⟨"Returns", "returns", .returns⟩,
  ⟨"Return", "returns", .returns⟩,
  ⟨"Yields", "yields", .yields⟩,
  ⟨"Yield", "yields", .yields⟩,
  ⟨"Examples", "examples", .text⟩,
  ⟨"Example", "examples", .text⟩,
  ⟨"Warnings", "warnings", .text⟩,
  ⟨"Warning", "warnings", .text⟩,
  ⟨"See Also", "see_also", .text⟩,
  ⟨"Related", "see_also", .text⟩,
  ⟨"Notes", "notes", .text⟩,
  ⟨"Note", "notes", .text⟩,
  ⟨"References", "references", .text⟩,
  ⟨"Reference", "references", .text⟩,
  ⟨"deprecated", "deprecation", .deprecation⟩]

/-- A text without the given start, if it has it. -/
def dropPrefix? (start t : List Char) : Option (List Char) :=
  if start.isPrefixOf t then some (t.drop start.length) else none

/-- What follows an underline: the white space up to the last line feed of the
run belongs to the title. On the last line the rest of the text is blank. -/
def afterUnderline? (t : List Char) : Option (List Char) :=
  let blank := t.takeWhile Text.isSpace
  let rest := t.drop blank.length
  if rest.isEmpty then some []
  else if '\n' ∈ blank then
    some ('\n' :: (blank.reverse.takeWhile (· != '\n')).reverse ++ rest)
  else none

/-- What follows the heading of the section, if the text starts with it. -/
def Section.afterHeading? (s : Section) (t : List Char) : Option (List Char) :=
  if s.subject = .deprecation then do
    let t ← dropPrefix? ['.', '.'] t
    let t ← dropPrefix? s.title.toList (Text.trimStart t)
    dropPrefix? [':', ':'] (Text.trimStart t)
  else do
    let t ← dropPrefix? s.title.toList t
    let blank := t.takeWhile Text.isSpace
    if blank.getLast? != some '\n' then none
    else afterUnderline? (← dropPrefix? (List.replicate s.title.length '-') (t.drop blank.length))

/-- The section whose heading the text starts with, and how long the heading is. -/
def heading? (t : List Char) : Option (Section × Nat) :=
  sections.findSome? fun s =>
    (s.afterHeading? t).map fun rest => (s, t.length - rest.length)

/-- Splits a text at the headings that stand at the start of a line, `skip`
counting the characters of a heading still to leave out: what precedes the
first heading, and each section with its body. -/
def sectionsFrom : Nat → Bool → List Char → List Char × List (Section × List Char)
  | _, _, [] => ([], [])
  | skip + 1, _, c :: t => sectionsFrom skip (c == '\n') t
  | 0, lineStart, c :: t =>
    match if lineStart then heading? (c :: t) else none with
    | some (s, length) =>
      let (body, more) := sectionsFrom (length - 1) (c == '\n') t
      ([], (s, body) :: more)
    | none =>
      let (text, more) := sectionsFrom 0 (c == '\n') t
      (c :: text, more)

/-- A key line starts in the first column. -/
def isKeyLine (line : List Char) : Bool := line.head?.any (!Text.isSpace ·)

/-- The key lines of a section, each with the cleaned text below it. -/
def keyValues (body : List Char) : List (List Char × List Char) :=
  let head (line : List Char) := if isKeyLine line then some line else none
  (Text.groupUnder head (Text.lines body)).2.map fun (key, below) =>
    (key, Text.clean (Text.unlines ([] :: below)))

/-- A key line `name : type`, cut at its first colon. -/
def nameAndType (key : List Char) : List Char × Option (List Char) :=
  match Text.cut? ':' key with
  | none => (key, none)
  | some (name, type) => (Text.trimEnd name, some (Text.trimStart type))

/-- A type without its mark of being optional. -/
def optionalType? (type : List Char) : Option (List Char) :=
  [", optional".toList, "(optional)".toList].findSome? fun mark =>
    if mark.isSuffixOf type then some (type.take (type.length - mark.length)) else none

/-- The words that may stand between `default` and the value. -/
def defaultLinks : List (List Char) :=
  [" is ".toList, " = ".toList, ": ".toList, "s to ".toList, []]

/-- The value that a text starts with, blanks aside: it ends in a word character. -/
def value? (t : List Char) : Option (List Char) :=
  let run := (Text.trimStart t).takeWhile fun c => Unicode.isWord c || c == '-' || c == '.'
  match Text.dropEndWhile (!Unicode.isWord ·) run with
  | [] => none
  | value => some value

/-- The default value, where the text starts with the word `default`. -/
def defaultHere? : List Char → Option (List Char)
  | [] => none
  | c :: t =>
    if c = 'D' ∨ c = 'd' then do
      let t ← dropPrefix? "efault".toList t
      defaultLinks.findSome? fun link => (dropPrefix? link t).bind value?
    else none

/-- The first default value after white space. -/
def defaultAfterSpace? : List Char → Option (List Char)
  | [] => none
  | c :: t =>
    (if Text.isSpace c then defaultHere? t else none) <|> defaultAfterSpace? t

/-- The default value that a description names. -/
def default? (description : List Char) : Option String :=
  (defaultHere? description <|> defaultAfterSpace? description).map String.ofList

def paramEntry (s : Section) (key value : List Char) : Entry :=
  let (name, type) := nameAndType key
  let (type, optional) := match type with
    | none => (none, none)
    | some type =>
      match optionalType? type with
      | some type => (some (String.ofList type), some true)
      | none => (some (String.ofList type), some false)
  .param
    { args := [s.key, String.ofList name], description := trimmed? value
      name := String.ofList name, type, optional, default := default? value }

def returnsEntry (s : Section) (key value : List Char) (generator : Bool) : Entry :=
  let (name, type) := match nameAndType key with
    | (type, none) => (none, type)
    | (name, some type) => (some (String.ofList name), type)
  .returns
    { args := [s.key], description := trimmed? value, type := some (String.ofList type)
      generator, name }

def raisesEntry (s : Section) (key value : List Char) : Entry :=
  .raises
    { args := [s.key, String.ofList key], description := trimmed? value
      type := some (String.ofList key) }

def deprecationEntry (s : Section) (body : List Char) : Entry :=
  let (version, description) := match Text.cut? '\n' body with
    | some (version, rest) => (version, trimmed? (Text.clean rest))
    | none => (body, none)
  .deprecation { args := [s.key], description, version := trimmed? version }

def sectionEntries (s : Section) (body : List Char) : List Entry :=
  match s.subject with
  | .text => [.note { args := [s.key], description := trimmed? body }]
  | .params => (keyValues body).map fun (key, value) => paramEntry s key value
  | .raises => (keyValues body).map fun (key, value) => raisesEntry s key value
  | .returns => (keyValues body).map fun (key, value) => returnsEntry s key value false
  | .yields => (keyValues body).map fun (key, value) => returnsEntry s key value true
  | .deprecation => [deprecationEntry s body]

def parse (t : List Char) : Docstring :=
  let (lead, bodies) := sectionsFrom 0 true (Text.clean t)
  ofDescription lead (bodies.flatMap fun (s, body) => sectionEntries s body) (some .numpy)

end RefBook.Docstring.Numpy
