import RefBook.Source.Parser

/-! The parameters of functions. -/

namespace RefBook.Source.Parameters

open RefBook.Source.Parser

/-- The parameters read so far. -/
structure Progress where
  params : Params
  /-- A slash has been read. -/
  slash : Bool
  /-- A star has been read. -/
  star : Bool
  /-- Two stars have been read, which are the last parameter. -/
  twoStars : Bool

def Progress.start : Progress := ⟨.none, false, false, false⟩

/-- How the types of parameters are written. -/
structure Types where
  plain : Parser Expr
  starred : Parser Expr

/-- A name with a type, where types are possible. -/
def typedName (type : Option (Parser Expr)) : Parser Param := do
  let id ← name
  match type with
  | none => return ⟨id, none, none⟩
  | some type =>
    if ← accept (.mark ":") then return ⟨id, some (← type), none⟩
    else return ⟨id, none, none⟩

/-- One more parameter, or a slash or a lone star between parameters. -/
def item (types : Option Types) (default : Parser Expr) (p : Progress) :
    Parser Progress := do
  if p.twoStars then failure
  match ← peek with
  | some (.mark "/") =>
    let _ ← advance
    if p.slash || p.star || p.params.args.isEmpty then failure
    return { p with slash := true
                    params := { p.params with posonly := p.params.args, args := [] } }
  | some (.mark "*") =>
    let _ ← advance
    if p.star then failure
    if (← peek).any isName then
      let vararg ← typedName (types.map (·.starred))
      return { p with star := true, params := { p.params with vararg := some vararg } }
    else return { p with star := true }
  | some (.mark "**") =>
    let _ ← advance
    if (← peek).any isName then
      let kwarg ← typedName (types.map (·.plain))
      return { p with twoStars := true, params := { p.params with kwarg := some kwarg } }
    else return { p with twoStars := true }
  | _ =>
    let param ← typedName (types.map (·.plain))
    let param ←
      if ← accept (.mark "=") then
        let value ← default
        pure { param with default := some value }
      else pure param
    if p.star then
      return { p with params := { p.params with kwonly := p.params.kwonly ++ [param] } }
    else return { p with params := { p.params with args := p.params.args ++ [param] } }

/-- The parameters up to the closing token, which is not read. -/
def items (types : Option Types) (default : Parser Expr) (closing : Token) :
    Nat → Progress → Parser Progress
  | 0, p => return p
  | limit + 1, p => do
    let p ← item types default p
    if ← accept (.mark ",") then
      if ← nextIs closing then return p else items types default closing limit p
    else return p

/-- Parameters without a default do not follow those with one. -/
def defaultsLast (params : List Param) : Bool :=
  ((params.dropWhile (·.default.isNone)).dropWhile (·.default.isSome)).isEmpty

def names (p : Params) : List String :=
  (p.posonly ++ p.args ++ p.vararg.toList ++ p.kwonly ++ p.kwarg.toList).map (·.name)

/-- A lone star needs a parameter after it, defaults come last, and names differ. -/
def Progress.isValid (p : Progress) : Bool :=
  (!p.star || p.params.vararg.isSome || !p.params.kwonly.isEmpty || p.twoStars) &&
    defaultsLast (p.params.posonly ++ p.params.args) && decide (names p.params).Nodup

/-- The parameters of a function up to the closing token, which is not read. -/
def all (limit : Nat) (types : Option Types) (default : Parser Expr) (closing : Token)
     : Parser Params := do
  if ← nextIs closing then return .none
  let p ← items types default closing limit .start
  if p.isValid then return p.params else failure

end RefBook.Source.Parameters
