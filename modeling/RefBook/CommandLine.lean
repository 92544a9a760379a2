import RefBook.Job
import RefBook.Settings

/-! What is said on the command line. -/

namespace RefBook.CommandLine

/-- Why there is nothing to do. -/
inductive Stop
  /-- The use of the program or its version is asked for. -/
  | information
  /-- The command line is not as it should be. -/
  | misuse
deriving DecidableEq, Repr

/-- The exit code of a run that does nothing. -/
def Stop.code : Stop → Nat
  | information => 0
  | misuse => 2

/-- What can be set by a word that starts with two dashes. -/
inductive Name
  | template
  | config
  | exclude
  | modelFile
  | logLevel
  | verbose
  | help
  | version
deriving DecidableEq, Repr

def Name.ofText? : String → Option Name
  | "summary-template-file" => some .template
  | "config" => some .config
  | "exclude" => some .exclude
  | "dump-model" => some .modelFile
  | "log-level" => some .logLevel
  | "verbose" => some .verbose
  | "help" => some .help
  | "version" => some .version
  | _ => none

/-- The same by a single letter. -/
def Name.ofLetter? : Char → Option Name
  | 'v' => some .verbose
  | 'h' => some .help
  | 'V' => some .version
  | _ => none

structure Arguments where
  /-- The package's directory and that of the pages. -/
  places : List String
  template : Option String
  config : Option String
  exclude : List String
  modelFile : Option String
  logLevel : Option String
  verbose : Bool
deriving DecidableEq, Repr

namespace Arguments

def empty : Arguments := ⟨[], none, none, [], none, none, false⟩

def logLevels : List String := ["trace", "debug", "info", "warn", "error"]

/-- The path that is set to `text`, unless it has been set or is empty. -/
def setPath (old : Option String) (text : String) : Except Stop (Option String) :=
  if old.isSome || text.isEmpty then .error .misuse else .ok (some text)

/-- Sets what takes a value. -/
def set (a : Arguments) (name : Name) (text : String) : Except Stop Arguments := do
  match name with
  | .template => return { a with template := ← setPath a.template text }
  | .config => return { a with config := ← setPath a.config text }
  | .modelFile => return { a with modelFile := ← setPath a.modelFile text }
  | .exclude => return { a with exclude := a.exclude ++ [text] }
  | .logLevel =>
    if a.logLevel.isSome || !logLevels.contains text then .error .misuse
    else return { a with logLevel := some text }
  | .verbose | .help | .version => .error .misuse

/-- Sets what takes no value, at most once. -/
def flag (a : Arguments) : Name → Except Stop Arguments
  | .verbose => if a.verbose then .error .misuse else .ok { a with verbose := true }
  | .help | .version => .error .information
  | _ => .error .misuse

def takesValue : Name → Bool
  | .verbose | .help | .version => false
  | _ => true

/-- Takes the next of the two directories. -/
def place (a : Arguments) (text : String) : Except Stop Arguments :=
  if a.places.length < 2 && !text.isEmpty then .ok { a with places := a.places ++ [text] }
  else .error .misuse

/-- Whether a word is neither a value nor a directory. -/
def isMarked (word : String) : Bool :=
  word.toList.head? == some '-' && word.length != 1

/-- Reads the words one after another. A value stands after an equals sign or in the
next word; after two dashes alone no word is marked. -/
def read : Arguments → List String → Except Stop Arguments
  | a, [] => .ok a
  | a, word :: words =>
    if !isMarked word then do read (← a.place word) words
    else
      match word.toList with
      | ['-', '-'] => words.foldlM place a
      | '-' :: '-' :: rest =>
        let (name, attached) := match Text.cut? '=' rest with
          | some (name, value) => (name, some (String.ofList value))
          | none => (rest, none)
        match Name.ofText? (String.ofList name), attached with
        | none, _ => .error .misuse
        | some name, some value => do read (← a.set name value) words
        | some name, none =>
          if takesValue name then
            match words with
            | value :: words =>
              if isMarked value then .error .misuse else do read (← a.set name value) words
            | [] => .error .misuse
          else do read (← a.flag name) words
      | _ :: letters => do
        let a ← letters.foldlM (fun a c =>
          match Name.ofLetter? c with
          | some name => a.flag name
          | none => .error .misuse) a
        read a words
      | [] => .error .misuse

end Arguments

/-- The arguments that the words stand for; both directories are needed. -/
def parse (words : List String) : Except Stop Arguments := do
  let a ← Arguments.empty.read words
  if a.places.length < 2 then .error .misuse else return a

/-- The settings that the arguments ask for. -/
def Arguments.settings (a : Arguments) (t : Tree) : Except Error Settings :=
  match a.config with
  | some path => Settings.load t path
  | none => Settings.loadFrom t "."

/-- The job that arguments and settings describe; the arguments win. -/
def Arguments.job (a : Arguments) (s : Settings) : Job where
  root := a.places.getD 0 ""
  output := a.places.getD 1 ""
  template := a.template <|> s.summaryTemplate
  exclude := s.exclude ++ a.exclude
  modelFile := a.modelFile
  options := s.page

/-- How a run ends. -/
structure Exit where
  code : Nat
  /-- Why the run failed. -/
  error : Option Error
deriving DecidableEq, Repr

def Exit.ofError (e : Error) : Exit := ⟨e.code, some e⟩

/-- The whole run: how it ends, and the files after it. -/
def run (words : List String) (t : Tree) : Exit × Tree :=
  match parse words with
  | .error stop => (⟨stop.code, none⟩, t)
  | .ok a =>
    match a.settings t with
    | .error e => (.ofError e, t)
    | .ok s =>
      match (a.job s).run t with
      | (.error e, t) => (.ofError e, t)
      | (.ok _, t) => (⟨0, none⟩, t)

end RefBook.CommandLine
