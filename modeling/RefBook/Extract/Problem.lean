import RefBook.Error
import RefBook.Text.Quoted

/-! Why a source file yields no module. -/

namespace RefBook.Extract

inductive Problem
  /-- The text is not a program. -/
  | badSource (path : String)
  /-- The result of a function has a type of a kind that is not read. -/
  | unsupportedReturn (module function kind : String)
  /-- A parameter passed by name only has a default of a kind that is not read. -/
  | unsupportedDefault (module function param kind : String)
  | duplicateModule (name : String)
deriving DecidableEq, Repr

/-- What is said of a text that is no program. -/
def badSourceDetail : String := "not a well formed program"

def quoted (s : String) : String := String.ofList (Text.quoted s.toList)

def Problem.message : Problem → String
  | .badSource path => "syntax error in " ++ path ++ ": " ++ badSourceDetail
  | .unsupportedReturn module function kind =>
    "unknown return annotation in function " ++ quoted function ++ " of " ++ module ++ ": " ++ kind
  | .unsupportedDefault module function param kind =>
    "unknown default value in function " ++ quoted function ++ " of " ++ module ++
      " for parameter " ++ quoted param ++ ": " ++ kind
  | .duplicateModule name => "duplicate module name '" ++ name ++ "'"

/-- The failure of a run that the problem causes. -/
def Problem.toError (p : Problem) : Error :=
  match p with
  | .badSource path => .badSource path badSourceDetail
  | .unsupportedReturn module _ _ | .unsupportedDefault module _ _ _ =>
    .extractorGap module p.message
  | .duplicateModule name => .duplicateModule name

end RefBook.Extract
