/-! Words that introduce an entry in more than one dialect. -/

namespace RefBook.Docstring.Keyword

def params : List String :=
  ["param", "parameter", "arg", "argument", "attribute", "key", "keyword"]

def raises : List String := ["raises", "raise", "except", "exception"]

def deprecations : List String := ["deprecation"]

def returns : List String := ["return", "returns"]

def yields : List String := ["yield", "yields"]

/-- The words for returned and yielded values. -/
def results : List String := returns ++ yields

end RefBook.Docstring.Keyword
