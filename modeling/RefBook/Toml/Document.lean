import RefBook.Toml.Reader

/-! Whole documents: lines of keys with their values, under headers. -/

namespace RefBook.Toml

open Reader

/-- What has been read, and the path of the header that it stands under. -/
structure Document where
  entries : Entries
  header : List String
deriving Inhabited

namespace Document

/-- Adds a key under the header. -/
def add (d : Document) (path : List String) (key : String) (i : Item) : Option Document := do
  let entries ← d.entries.alter false (fun _ t => t.add path key i) d.header .header
  return { d with entries := entries }

def startTable (d : Document) (path : List String) (key : String) : Option Document := do
  return ⟨← d.entries.startTable path key, path ++ [key]⟩

def startRow (d : Document) (path : List String) (key : String) : Option Document := do
  return ⟨← d.entries.startRow path key, path ++ [key]⟩

/-- Reads one line, or nothing at the end. -/
def line (d : Document) : Reader (Option Document) := do
  blanks
  match ← peek with
  | none => return none
  | some '\n' | some '\r' | some '#' =>
    lineEnd
    return some d
  | some '[' =>
    let isRow ← accept "[["
    if !isRow then expect "["
    let (path, name) ← key
    expect (if isRow then "]]" else "]")
    lineEnd
    return some (← if isRow then d.startRow path name else d.startTable path name)
  | some _ =>
    let (path, name) ← key
    expect "="
    blanks
    let i ← value (depthLimit - 1)
    lineEnd
    return some (← d.add path name i)

def readLines : Nat → Document → Reader Document
  | 0, _ => failure
  | limit + 1, d => do
    match ← d.line with
    | some d => readLines limit d
    | none => return d

end Document

/-- What is said of a text that is no document, or not one as expected. -/
def badDocumentDetail : String := "not a well formed configuration"

/-- The entries of a document. A byte order mark before it is passed over. -/
def parse? (text : List Char) : Option Entries := do
  let text := if text.head? == some '\uFEFF' then text.drop 1 else text
  let (d, _) ← Document.readLines (text.length + 1) ⟨[], []⟩ text
  return d.entries

end RefBook.Toml
