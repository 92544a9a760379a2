import RefBook.Page.Class

/-! The page of a module: its documentation, type aliases, functions and
classes. Private ones are left out. -/

namespace RefBook.Page

def titleText (m : Module) : String :=
  if m.isPackage then "# package `" ++ m.displayName ++ "`\n\n" else "# module `" ++ m.name ++ "`\n\n"

def aliasText (a : TypeAlias) : String := "`type " ++ a.name ++ "`: `" ++ a.type ++ "`\n\n"

def render (o : Options) (m : Module) : String :=
  titleText m ++ paragraph (m.docstring.getD "") ++
    listed "## Type Aliases\n\n"
      ((m.aliases.filter fun a => !isPrivate a.name).map aliasText) "" ++
    listed "## Functions\n\n"
      ((m.functions.filter fun f => !isPrivate f.name).map (functionText o none)) "" ++
    listed "## Classes\n\n"
      ((m.classes.filter fun c => !isPrivate c.name).map (classText o)) ""

end RefBook.Page
