/-! The summary page: a template with the table of contents put in. -/

namespace RefBook.Summary

/-- The mark that stands for the table of contents. -/
def placeholder : String := "\x7b\x7bapibook_toc\x7d\x7d"

def standardTemplate : String := "# SUMMARY\n# API Reference\n\n" ++ placeholder ++ "\n"

/-- Replaces every occurrence of `mark` from left to right, `skip` characters of
the last one still to leave out. -/
def replaceFrom (mark value : List Char) : Nat → List Char → List Char
  | _, [] => []
  | skip + 1, _ :: t => replaceFrom mark value skip t
  | 0, c :: t =>
    if mark.isPrefixOf (c :: t) then value ++ replaceFrom mark value (mark.length - 1) t
    else c :: replaceFrom mark value 0 t

def render (template : Option String) (contents : String) : String :=
  String.ofList (replaceFrom placeholder.toList contents.toList 0
    (template.getD standardTemplate).toList)

end RefBook.Summary
