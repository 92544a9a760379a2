import RefBook.Json.Model
import RefBook.Page.Module
import RefBook.Registry.Reexport
import RefBook.Sources
import RefBook.Summary

/-! Documenting a package: its modules are read and their exports resolved, and
then one page for each of them is written, and the summary page last. -/

namespace RefBook

/-- The modules of the package in `root`, with their exports resolved. -/
def Registry.build (t : Tree) (root : String) (exclude : List String) :
    Except Error (Registry × Report) := do
  let files ← (Sources.collect t root exclude).mapError Sources.Problem.toError
  let name ← (Sources.packageName t root).mapError Sources.Problem.toError
  let sources := files.map fun (path, text) => (path, text.toList)
  let r ← (Registry.ofSources name sources).mapError Extract.Problem.toError
  r.resolve.mapError UnknownModule.toError

structure Job where
  /-- The directory of the package. -/
  root : String
  /-- The directory of the pages. -/
  output : String
  /-- The file of the template for the summary page. -/
  template : Option String
  /-- Patterns of the source files that are passed over. -/
  exclude : List String
  /-- Where the modules are written as structured data. -/
  modelFile : Option String
  options : Page.Options
deriving DecidableEq, Repr

namespace Job

/-- What a finished run has done. -/
structure Outcome where
  modules : Nat
  /-- The files of the pages, in the order of the modules. -/
  pages : List String
  summary : String
  spliced : Nat
  misses : Nat
deriving DecidableEq, Repr

/-- Changes files until something fails; what was changed before stays so. -/
abbrev Action := ExceptT Error (StateM Tree)

def attempt (path : String) (change : Tree → Except Fault Tree) : Action Unit := do
  match change (← get) with
  | .ok t => set t
  | .error f => throw (.io path f.message)

def writeFile (path text : String) : Action Unit := attempt path (·.write path text)

/-- The template for the summary page, if one is asked for. -/
def readTemplate (job : Job) (t : Tree) : Except Error (Option String) :=
  match job.template with
  | none => .ok none
  | some path =>
    match t.read path with
    | .ok text => .ok (some text)
    | .error f =>
      .error (.config ("failed to read summary template " ++ path ++ ": " ++ f.message))

/-- The files of the pages and their texts. -/
def pages (job : Job) (r : Registry) : List (String × String) :=
  r.toList.map fun m =>
    (Path.join job.output (Page.fileName m.name), Page.render job.options m)

/-- The file of the summary page and its text. -/
def summary (job : Job) (template : Option String) (r : Registry) : String × String :=
  (Path.join job.output "SUMMARY.md", Summary.render template r.contents)

/-- Does the whole job. Nothing is written before the modules are complete. -/
def act (job : Job) : Action Outcome := do
  let template ← job.readTemplate (← get)
  let (r, report) ← Registry.build (← get) job.root job.exclude
  if let some path := job.modelFile then writeFile path r.toJson.render
  attempt job.output (·.createDirectories job.output)
  let pages := job.pages r
  pages.forM fun (path, text) => writeFile path text
  let summary := job.summary template r
  writeFile summary.1 summary.2
  return ⟨r.size, pages.map (·.1), summary.1, report.spliced, report.misses.length⟩

/-- The files after the job, and what it has done or why it failed. -/
def run (job : Job) (t : Tree) : Except Error Outcome × Tree := job.act.run.run t

end Job

end RefBook
