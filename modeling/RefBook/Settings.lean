import RefBook.Error
import RefBook.Page.Options
import RefBook.Toml.Document
import RefBook.Tree

/-! The settings of a run that a configuration file holds. -/

namespace RefBook

structure Settings where
  /-- The file of the template for the summary page. -/
  summaryTemplate : Option String
  page : Page.Options
  /-- Patterns of the source files that are passed over. -/
  exclude : List String
deriving DecidableEq, Repr

namespace Settings

/-- What holds where a configuration says nothing. -/
def standard : Settings := ⟨none, .standard, []⟩

instance : Inhabited Settings := ⟨standard⟩

/-- The name of the table with the settings, and of the file they are in. -/
def tableName : String := "apibook"

def fileName : String := tableName ++ ".toml"

def text? : Toml.Item → Option String
  | .text s => some s
  | _ => none

def natural? : Toml.Item → Option Nat
  | .int n => if 0 ≤ n then some n.toNat else none
  | _ => none

def texts? : Toml.Item → Option (List String)
  | .array items => items.mapM text?
  | _ => none

/-- The value of an item, or the standard one where there is none. -/
def orStandard {α : Type} (read : Toml.Item → Option α) (standard : α) :
    Option Toml.Item → Option α
  | none => some standard
  | some i => read i

/-- The settings from the items for the template, the width of a signature, the
visible private methods and the patterns. -/
def ofItems? (template width visible exclude : Option Toml.Item) : Option Settings := do
  return {
    summaryTemplate := ← orStandard (fun i => (text? i).map some) none template
    page := ⟨← orStandard natural? Page.Options.standard.signatureWidth width,
      ← orStandard texts? Page.Options.standard.visiblePrivate visible⟩
    exclude := ← orStandard texts? [] exclude }

/-- The settings in a table. Other keys are passed over. -/
def ofEntries? (t : Toml.Entries) : Option Settings :=
  ofItems? (t.get? "summary_template") (t.get? "signature_width") (t.get? "visible_private")
    (t.get? "exclude")

/-- The settings in a list of their values, in order. -/
def ofList? (items : List Toml.Item) : Option Settings :=
  ofItems? items[0]? items[1]? items[2]? items[3]?

/-- The settings in a table or in a list. A point in time is taken for a table with
other keys only. -/
def ofItem? : Toml.Item → Option Settings
  | .table _ t | .inline t => ofEntries? t
  | .array items => ofList? items
  | .rows earlier latest => ofList? ((earlier ++ [latest]).map (Toml.Item.table .header))
  | .moment => some standard
  | _ => none

/-- The settings that a configuration holds. -/
def parse? (text : String) : Option Settings := do
  let entries ← Toml.parse? text.toList
  orStandard ofItem? standard (entries.get? tableName)

/-- The settings in a file. -/
def load (t : Tree) (path : String) : Except Error Settings :=
  match t.read path with
  | .error f => .error (.config ("failed to read config file " ++ path ++ ": " ++ f.message))
  | .ok text =>
    match parse? text with
    | some s => .ok s
    | none =>
      .error (.config ("failed to parse config file " ++ path ++ ": " ++ Toml.badDocumentDetail))

/-- The settings in the configuration file of a directory, if there is one. -/
def loadFrom (t : Tree) (directory : String) : Except Error Settings :=
  let path := Path.join directory fileName
  if t.contains path then load t path else .ok standard

end Settings

end RefBook
