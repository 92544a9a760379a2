import RefBook.Extract.Declaration
import RefBook.Source.Statement

/-! The module that a source text declares. Statements are read in order, and so
are those in the branches of conditions and of error handling. -/

namespace RefBook.Extract

open Source (Expr Stmt Alias)

/-- Whether an assignment is to the list of exports. -/
def isExportList : Expr → Bool
  | .name _ id => id == "__all__"
  | _ => false

/-- Whether a type says that the assigned value is a type alias. -/
def isAliasType : Expr → Bool
  | .name _ id => id == "TypeAlias"
  | .attribute _ _ attr => attr == "TypeAlias"
  | _ => false

def assign (c : Context) (m : Module) (targets : List Expr) (value : Expr) : Module :=
  match targets with
  | [target] =>
    if isExportList target then { m with exports := exportNames value }
    else assigned [target]
  | targets => assigned targets
where
  assigned (targets : List Expr) : Module :=
    let text := exprText c.source value
    { m with vars := m.vars ++ targets.map fun target =>
        ⟨exprText c.source target, some text, none⟩ }

def annAssign (c : Context) (m : Module) (target type : Expr) (value : Option Expr) : Module :=
  if isExportList target then
    match value with
    | some value => { m with exports := exportNames value }
    | none => m
  else
    let name := exprText c.source target
    match value with
    | some value =>
      if isAliasType type then
        { m with aliases := m.aliases ++ [⟨name, exprText c.source value⟩] }
      else
        { m with vars := m.vars ++
            [⟨name, some (exprText c.source value), some (exprText c.source type)⟩] }
    | none =>
      { m with vars := m.vars ++ [⟨name, none, some (exprText c.source type)⟩] }

/-- The symbols that a statement without blocks adds to a module. -/
def declare (c : Context) (m : Module) : Stmt → Except Problem Module
  | .class name bases decorators body => do
    return { m with classes := m.classes ++ [← classOf c name bases decorators body] }
  | .function isAsync name params result decorators body => do
    let f ← function c false isAsync name params result decorators body
    return { m with functions := m.functions ++ [f] }
  | .assign targets value => .ok (assign c m targets value)
  | .annAssign target type value => .ok (annAssign c m target type value)
  | .augAssign target op value =>
    .ok (if isExportList target ∧ op = .add then
      { m with exports := m.exports ++ exportNames value } else m)
  | .typeAlias name value =>
    .ok { m with aliases := m.aliases ++ [⟨exprText c.source name, exprText c.source value⟩] }
  | .importWhole names =>
    .ok { m with imports := m.imports ++ names.map fun a => .whole a.name a.asname }
  | .importFrom module names level =>
    .ok { m with imports := m.imports ++
            [.selected module (names.map fun a => ⟨a.name, a.asname⟩) level] }
  | _ => .ok m

mutual

/-- Reads a statement, and the statements in its branches. -/
def visit (c : Context) (m : Module) : Stmt → Except Problem Module
  | .ifElse body orelse => do visitAll c (← visitAll c m body) orelse
  | .tryExcept body handlers orelse final => do
    let m ← visitBlocks c (← visitAll c m body) handlers
    visitAll c (← visitAll c m orelse) final
  | s => declare c m s

def visitAll (c : Context) (m : Module) : List Stmt → Except Problem Module
  | [] => .ok m
  | s :: rest => do visitAll c (← visit c m s) rest

def visitBlocks (c : Context) (m : Module) : List (List Stmt) → Except Problem Module
  | [] => .ok m
  | block :: rest => do visitBlocks c (← visitAll c m block) rest

end

/-- The module that statements declare. -/
def ofStatements (c : Context) (stmts : List Stmt) : Except Problem Module :=
  visitAll c ⟨c.module, docstring? stmts, [], [], [], [], [], []⟩ stmts

/-- The module of a source text; `path` is where it is from. -/
def extract (name path : String) (source : List Char) : Except Problem Module :=
  match Source.parse? source with
  | none => .error (.badSource path)
  | some stmts => ofStatements ⟨name, source⟩ stmts

end RefBook.Extract
