import RefBook.Module.Basic

/-! What a page shows, and the file it is written to. -/

namespace RefBook

/-- Names that start with an underscore are private. -/
def isPrivate (name : String) : Bool := name.toList.head? == some '_'

namespace Page

structure Options where
  /-- How wide the names of a call may get before each parameter has its own line. -/
  signatureWidth : Nat
  /-- Private methods that are shown all the same. -/
  visiblePrivate : List String
deriving DecidableEq, Repr

def Options.standard : Options := ⟨80, ["__init__", "__call__"]⟩

instance : Inhabited Options := ⟨.standard⟩

def Options.showsMethod (o : Options) (name : String) : Bool :=
  !isPrivate name || name ∈ o.visiblePrivate

/-- The file of a module's page. -/
def fileName (module : String) : String := Module.displayNameOf module ++ ".md"

end Page

end RefBook
