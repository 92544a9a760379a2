import RefBook.Extract.Module

/-! # Statements without their branches

Reading a module descends into conditions and error handling. Here these are taken
apart first: `flatten` puts the statements of all branches in a row, in the order of
the text. Reading the row one statement after the other gives the same module, or the
same problem, as the descent. -/

namespace RefBook.Extract

open Source (Stmt)

mutual

/-- A statement, or in its place the statements of its branches. -/
def flattenStmt : Stmt → List Stmt
  | .ifElse body orelse => flatten body ++ flatten orelse
  | .tryExcept body handlers orelse final =>
    flatten body ++ flattenBlocks handlers ++ flatten orelse ++ flatten final
  | s => [s]

/-- The statements with those of all branches in the places of the branching ones. -/
def flatten : List Stmt → List Stmt
  | [] => []
  | s :: rest => flattenStmt s ++ flatten rest

def flattenBlocks : List (List Stmt) → List Stmt
  | [] => []
  | block :: rest => flatten block ++ flattenBlocks rest

end

theorem foldlM_declare_singleton (c : Context) (m : Module) (s : Stmt) :
    [s].foldlM (declare c) m = declare c m s := by
  rw [List.foldlM_cons]
  cases declare c m s <;> rfl

theorem foldlM_declare_append (c : Context) (m : Module) (l l' : List Stmt) :
    (l ++ l').foldlM (declare c) m = (l.foldlM (declare c) m).bind (l'.foldlM (declare c)) := by
  rw [List.foldlM_append]
  rfl

mutual

theorem visit_eq_foldlM (c : Context) (m : Module) (s : Stmt) :
    visit c m s = (flattenStmt s).foldlM (declare c) m := by
  cases s with
  | ifElse body orelse =>
    rw [visit, flattenStmt, foldlM_declare_append, ← visitAll_eq_foldlM c m body]
    cases visitAll c m body with
    | error p => rfl
    | ok m' => exact visitAll_eq_foldlM c m' orelse
  | tryExcept body handlers orelse final =>
    rw [visit, flattenStmt, foldlM_declare_append, foldlM_declare_append, foldlM_declare_append,
      ← visitAll_eq_foldlM c m body]
    cases visitAll c m body with
    | error p => rfl
    | ok m₁ =>
      simp only [bind, Except.bind]
      rw [← visitBlocks_eq_foldlM c m₁ handlers]
      cases visitBlocks c m₁ handlers with
      | error p => rfl
      | ok m₂ =>
        simp only []
        rw [← visitAll_eq_foldlM c m₂ orelse]
        cases visitAll c m₂ orelse with
        | error p => rfl
        | ok m₃ => exact visitAll_eq_foldlM c m₃ final
  | _ => simp only [visit, flattenStmt, foldlM_declare_singleton]

theorem visitAll_eq_foldlM (c : Context) (m : Module) (l : List Stmt) :
    visitAll c m l = (flatten l).foldlM (declare c) m := by
  cases l with
  | nil => rfl
  | cons s rest =>
    rw [visitAll, flatten, foldlM_declare_append, ← visit_eq_foldlM c m s]
    cases visit c m s with
    | error p => rfl
    | ok m' => exact visitAll_eq_foldlM c m' rest

theorem visitBlocks_eq_foldlM (c : Context) (m : Module) (l : List (List Stmt)) :
    visitBlocks c m l = (flattenBlocks l).foldlM (declare c) m := by
  cases l with
  | nil => rfl
  | cons block rest =>
    rw [visitBlocks, flattenBlocks, foldlM_declare_append, ← visitAll_eq_foldlM c m block]
    cases visitAll c m block with
    | error p => rfl
    | ok m' => exact visitBlocks_eq_foldlM c m' rest

end

/-- **The module is read off the flattened statements**, but for its documentation,
which is the first statement's. -/
theorem ofStatements_eq_foldlM (c : Context) (stmts : List Stmt) :
    ofStatements c stmts =
      (flatten stmts).foldlM (declare c)
        ⟨c.module, docstring? stmts, [], [], [], [], [], []⟩ :=
  visitAll_eq_foldlM c _ stmts

end RefBook.Extract
