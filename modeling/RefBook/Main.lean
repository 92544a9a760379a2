import RefBook.CommandLine
import RefBook.Text.Utf8

/-! The program: it takes the files that a run can read from the disk, runs, and
writes what the run has changed. -/

namespace RefBook.Main

/-- What is at a path, by the names that lead to it. Of a directory, also what is in
it: all of it if `isDeep`, or only its own entries. -/
partial def load (isDeep : Bool) (place : Place) (path : String) : IO (List (Place × Node)) := do
  let here := (← IO.currentDir) / path
  if ← here.isDir then
    let entries ← here.readDir
    let below ← entries.toList.mapM fun e => do
      let place := place ++ [e.fileName]
      if isDeep then load isDeep place e.path.toString
      else return [(place, if ← e.path.isDir then .directory else .file none)]
    return (place, .directory) :: below.flatten
  else if ← here.pathExists then
    let bytes ← IO.FS.readBinFile here
    return [(place, .file ((Text.ofUtf8? bytes.toList).map String.ofList))]
  else return []

/-- The names that lead to a path, from those of the working directory. -/
def placeOf (base : Place) (path : String) : Place := (Path.allSteps path).foldl Tree.move base

/-- Adds what is at a path, and the directories on the way to it. -/
def add (isDeep : Bool) (t : Tree) (path : String) : IO Tree := do
  let found ← load isDeep (placeOf t.base.place path) path
  return found.foldl (fun t (place, n) => if place.isEmpty then t else t.plant place n) t

/-- The files that a run with these arguments can read. -/
def snapshot (a : CommandLine.Arguments) : IO Tree := do
  let base := placeOf [] (← IO.currentDir).toString
  let mut t := Tree.ofFiles base []
  for path in [a.config.getD Settings.fileName] ++ a.template.toList ++ a.places.take 1 do
    t ← add true t path
  if let .ok settings := a.settings t then
    for path in settings.summaryTemplate.toList do
      t ← add true t path
  for path in a.places.drop 1 ++ a.modelFile.toList do
    t ← add false t path
  return t

/-- Writes the files that differ. -/
def store (before after : Tree) : IO Unit := do
  for (place, text) in before.changes after do
    let path := "/" ++ Tree.key place
    IO.FS.createDirAll ("/" ++ Tree.key place.dropLast)
    IO.FS.writeFile path text

end RefBook.Main

open RefBook in
def main (words : List String) : IO UInt32 := do
  match CommandLine.parse words with
  | .error stop =>
    IO.eprintln "usage: refbook ROOT_DIR OUTPUT_DIR [--config FILE] [--exclude GLOB]..."
    return stop.code.toUInt32
  | .ok a =>
    let before ← Main.snapshot a
    let (exit, after) := CommandLine.run words before
    Main.store before after
    if let some e := exit.error then IO.eprintln ("error: " ++ e.message)
    return exit.code.toUInt32
