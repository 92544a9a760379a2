import RefBook.Proofs.Extract.Flatten

/-! # What the statements of a module declare

Each list of an extracted module holds the images of the flattened statements that
define its elements, in their order, and the exports are those of the last assignment
to the export list with what is added to it later. Of a function only its heading and
its documentation count, of a class only what its body declares directly, and of a loop, of
a context and of cases nothing: this is the surface of a statement, and a module depends on
the surfaces alone. -/

namespace RefBook.Extract

open Source (Stmt Expr)

/-- The class that a statement defines, or why it cannot be read. -/
def classIn? (c : Context) : Stmt → Option (Except Problem Class)
  | .class name bases decorators body => some (classOf c name bases decorators body)
  | _ => none

def functionIn? (c : Context) : Stmt → Option (Except Problem Function)
  | .function isAsync name params result decorators body =>
    some (function c false isAsync name params result decorators body)
  | _ => none

/-- The value that a statement assigns to the export list, in place of what it held. -/
def exportsSet? : Stmt → Option Expr
  | .assign [target] value | .annAssign target _ (some value) =>
    if isExportList target then some value else none
  | _ => none

def exportsAdded? : Stmt → Option Expr
  | .augAssign target .add value => if isExportList target then some value else none
  | _ => none

def exportsAdded (s : Stmt) : List String := (exportsAdded? s).elim [] exportNames

def declaresExports : Stmt → Bool
  | .assign [target] _ | .annAssign target _ _ => isExportList target
  | _ => false

def aliasIn? (c : Context) : Stmt → Option TypeAlias
  | .typeAlias name value => some ⟨exprText c.source name, exprText c.source value⟩
  | .annAssign target type (some value) =>
    if !isExportList target && isAliasType type then
      some ⟨exprText c.source target, exprText c.source value⟩
    else none
  | _ => none

/-- The variables that a statement defines: one for each target of an assignment, unless
it is to the export list or makes a type alias. -/
def variablesIn (c : Context) (s : Stmt) : List Variable :=
  if declaresExports s || (aliasIn? c s).isSome then []
  else match s with
    | .assign targets value =>
      targets.map fun target =>
        ⟨exprText c.source target, some (exprText c.source value), none⟩
    | .annAssign target type value =>
      [⟨exprText c.source target, value.map (exprText c.source), some (exprText c.source type)⟩]
    | _ => []

/-- The imports that a statement makes: one for each module that is imported as a whole,
or one for all names that are taken from a module. -/
def importsIn : Stmt → List Import
  | .importWhole names => names.map fun a => .whole a.name a.asname
  | .importFrom module names level =>
    [.selected module (names.map fun a => ⟨a.name, a.asname⟩) level]
  | _ => []

/-- The exports after statements, from what they were before. -/
def exportsAfter (start : List String) (l : List Stmt) : List String :=
  l.foldl (fun acc s => match exportsSet? s with
    | some value => exportNames value
    | none => acc ++ exportsAdded s) start

/-- Reading the statements turns the first module into the second. -/
structure Declares (c : Context) (m : Module) (l : List Stmt) (m' : Module) : Prop where
  name : m'.name = m.name
  docstring : m'.docstring = m.docstring
  classes : m'.classes.map .ok = m.classes.map .ok ++ l.filterMap (classIn? c)
  functions : m'.functions.map .ok = m.functions.map .ok ++ l.filterMap (functionIn? c)
  vars : m'.vars = m.vars ++ l.flatMap (variablesIn c)
  aliases : m'.aliases = m.aliases ++ l.filterMap (aliasIn? c)
  imports : m'.imports = m.imports ++ l.flatMap importsIn
  exports : m'.exports = exportsAfter m.exports l

theorem Declares.nil (c : Context) (m : Module) : Declares c m [] m := by
  constructor <;> simp [exportsAfter]

theorem Declares.append {c : Context} {m m' m'' : Module} {l l' : List Stmt}
    (h : Declares c m l m') (h' : Declares c m' l' m'') : Declares c m (l ++ l') m'' where
  name := h'.name.trans h.name
  docstring := h'.docstring.trans h.docstring
  classes := by rw [h'.classes, h.classes, List.filterMap_append, List.append_assoc]
  functions := by rw [h'.functions, h.functions, List.filterMap_append, List.append_assoc]
  vars := by rw [h'.vars, h.vars, List.flatMap_append, List.append_assoc]
  aliases := by rw [h'.aliases, h.aliases, List.filterMap_append, List.append_assoc]
  imports := by rw [h'.imports, h.imports, List.flatMap_append, List.append_assoc]
  exports := by rw [h'.exports, h.exports, exportsAfter, exportsAfter, exportsAfter,
    List.foldl_append]

theorem declares_assign (c : Context) (m : Module) (targets : List Expr) (value : Expr) :
    Declares c m [.assign targets value] (assign c m targets value) := by
  match targets with
  | [target] =>
    cases ht : isExportList target <;> constructor <;>
      simp [assign, assign.assigned, ht, classIn?, functionIn?, variablesIn, declaresExports,
        aliasIn?, importsIn, exportsAfter, exportsSet?, exportsAdded, exportsAdded?]
  | [] | _ :: _ :: _ =>
    constructor <;>
      simp [assign, assign.assigned, classIn?, functionIn?, variablesIn, declaresExports,
        aliasIn?, importsIn, exportsAfter, exportsSet?, exportsAdded, exportsAdded?]

theorem declares_annAssign (c : Context) (m : Module) (target type : Expr)
    (value : Option Expr) :
    Declares c m [.annAssign target type value] (annAssign c m target type value) := by
  cases ht : isExportList target <;> cases ha : isAliasType type <;> cases value <;>
    constructor <;>
    simp [annAssign, ht, ha, classIn?, functionIn?, variablesIn, declaresExports, aliasIn?,
      importsIn, exportsAfter, exportsSet?, exportsAdded, exportsAdded?]

/-- One statement: a case for each kind. -/
theorem declares_of_declare {c : Context} {m m' : Module} {s : Stmt}
    (h : declare c m s = .ok m') : Declares c m [s] m' := by
  cases s with
  | «class» name bases decorators body =>
    rw [declare] at h
    cases hk : classOf c name bases decorators body with
    | error p => rw [hk] at h; cases h
    | ok k =>
      rw [hk] at h
      cases h
      constructor <;> simp [hk, classIn?, functionIn?, variablesIn, declaresExports, aliasIn?,
        importsIn, exportsAfter, exportsSet?, exportsAdded, exportsAdded?]
  | function isAsync name params result decorators body =>
    rw [declare] at h
    cases hf : function c false isAsync name params result decorators body with
    | error p => rw [hf] at h; cases h
    | ok f =>
      rw [hf] at h
      cases h
      constructor <;> simp [hf, classIn?, functionIn?, variablesIn, declaresExports, aliasIn?,
        importsIn, exportsAfter, exportsSet?, exportsAdded, exportsAdded?]
  | assign targets value => cases h; exact declares_assign c m targets value
  | annAssign target type value => cases h; exact declares_annAssign c m target type value
  | augAssign target op value =>
    cases h
    cases op <;> cases ht : isExportList target <;> constructor <;>
      simp [ht, classIn?, functionIn?, variablesIn, declaresExports, aliasIn?,
        importsIn, exportsAfter, exportsSet?, exportsAdded, exportsAdded?]
  | _ =>
    cases h
    constructor <;> simp [classIn?, functionIn?, variablesIn, declaresExports, aliasIn?,
      importsIn, exportsAfter, exportsSet?, exportsAdded, exportsAdded?]

theorem declares_of_foldlM {c : Context} {m m' : Module} {l : List Stmt}
    (h : l.foldlM (declare c) m = .ok m') : Declares c m l m' := by
  induction l generalizing m with
  | nil => cases h; exact .nil c m'
  | cons s l ih =>
    rw [List.foldlM_cons] at h
    cases hs : declare c m s with
    | error p => rw [hs] at h; cases h
    | ok m₁ =>
      rw [hs] at h
      exact (declares_of_declare hs).append (ih h)

/-- A module is called what it is asked to be called. -/
theorem name_of_extract {name path : String} {source : List Char} {m : Module}
    (h : extract name path source = .ok m) : m.name = name := by
  unfold extract at h
  split at h
  · cases h
  · rw [ofStatements_eq_foldlM] at h
    exact (declares_of_foldlM h).name

/-- Without an assignment to the export list what is added follows what was there. -/
theorem exportsAfter_of_forall_none (start : List String) {l : List Stmt}
    (h : ∀ s ∈ l, exportsSet? s = none) :
    exportsAfter start l = start ++ l.flatMap exportsAdded := by
  induction l generalizing start with
  | nil => simp [exportsAfter]
  | cons s l ih =>
    have hs := h s List.mem_cons_self
    have hl := ih (start ++ exportsAdded s) fun a ha => h a (List.mem_cons_of_mem s ha)
    rw [List.flatMap_cons, ← List.append_assoc, ← hl]
    simp only [exportsAfter, List.foldl_cons, hs]

/-- An assignment to the export list leaves nothing of what was there. -/
theorem exportsAfter_of_set (start : List String) {before after : List Stmt} {s : Stmt}
    {value : Expr} (hs : exportsSet? s = some value) (h : ∀ a ∈ after, exportsSet? a = none) :
    exportsAfter start (before ++ s :: after) =
      exportNames value ++ after.flatMap exportsAdded := by
  rw [← exportsAfter_of_forall_none (exportNames value) h]
  simp only [exportsAfter, List.foldl_append, List.foldl_cons, hs]

/-- The documentation statement of a body, and nothing else of it. -/
def documentation : List Stmt → List Stmt
  | .expr (.constant span (.str t)) :: _ => [.expr (.constant span (.str t))]
  | _ => []

/-- What a statement in the body of a class contributes to the class: an attribute with a
type, or the heading and the documentation of a method. -/
def member? : Stmt → Option Stmt
  | .annAssign (.name span id) type value => some (.annAssign (.name span id) type value)
  | .function isAsync name params result decorators body =>
    some (.function isAsync name params result decorators (documentation body))
  | _ => none

/-- A statement without what is inside a function's body, without what a class's body does
not declare directly, and without the blocks of loops, contexts and cases. -/
def surface : Stmt → Stmt
  | .function isAsync name params result decorators body =>
    .function isAsync name params result decorators (documentation body)
  | .class name bases decorators body =>
    .class name bases decorators (documentation body ++ body.filterMap member?)
  | .loop _ _ | .inContext _ | .matchCases _ => .other
  | s => s

/-- Either the body starts with a text, or it has no documentation. -/
theorem documentation_cases (body : List Stmt) :
    (∃ span t rest, body = .expr (.constant span (.str t)) :: rest ∧
      documentation body = [.expr (.constant span (.str t))]) ∨
    documentation body = [] ∧ docstring? body = none := by
  unfold documentation
  split
  · exact .inl ⟨_, _, _, rfl, rfl⟩
  · rename_i hno
    refine .inr ⟨rfl, ?_⟩
    unfold docstring?
    split
    · exact absurd rfl (hno _ _ _)
    · rfl

theorem function_documentation (c : Context) (isMethod isAsync : Bool) (name : String)
    (params : Source.Params) (result : Option Expr) (decorators : List Expr)
    (body : List Stmt) :
    function c isMethod isAsync name params result decorators (documentation body) =
      function c isMethod isAsync name params result decorators body := by
  have hd : docstring? (documentation body) = docstring? body := by
    obtain ⟨span, t, rest, rfl, hdoc⟩ | ⟨hdoc, hnone⟩ := documentation_cases body
    · rfl
    · rw [hdoc, hnone]; rfl
  rw [function, function, hd]

theorem attributes_members (c : Context) (body : List Stmt) :
    attributes c (body.filterMap member?) = attributes c body := by
  unfold attributes
  rw [List.filterMap_filterMap]
  congr 1
  funext s
  cases s with
  | annAssign target type value => cases target <;> rfl
  | _ => rfl

theorem methods_members (c : Context) (body : List Stmt) :
    methods c (body.filterMap member?) = methods c body := by
  induction body with
  | nil => rfl
  | cons s rest ih =>
    cases s with
    | function isAsync name params result decorators body =>
      simp only [List.filterMap_cons, member?, methods, function_documentation, ih]
    | annAssign target type value =>
      cases target <;> simp only [List.filterMap_cons, member?, methods, ih]
    | _ => simp only [List.filterMap_cons, member?, methods, ih]

theorem docstring?_members (body : List Stmt) : docstring? (body.filterMap member?) = none := by
  induction body with
  | nil => rfl
  | cons s rest ih =>
    cases s with
    | function => rfl
    | annAssign target type value =>
      cases target with
      | name => rfl
      | _ => exact ih
    | _ => exact ih

theorem classOf_members (c : Context) (name : String) (bases decorators : List Expr)
    (body : List Stmt) :
    classOf c name bases decorators (documentation body ++ body.filterMap member?) =
      classOf c name bases decorators body := by
  obtain ⟨span, t, rest, rfl, hdoc⟩ | ⟨hdoc, hnone⟩ := documentation_cases body
  · -- the documentation statement is no member, and stands in front again
    have ha : attributes c (.expr (.constant span (.str t)) :: rest.filterMap member?) =
        attributes c rest := attributes_members c rest
    have hm : methods c (.expr (.constant span (.str t)) :: rest.filterMap member?) =
        methods c rest := methods_members c rest
    rw [classOf, classOf, hdoc]
    simp only [List.singleton_append, List.filterMap_cons, member?, ha, hm]
    rfl
  · rw [classOf, classOf, hdoc, List.nil_append, methods_members, attributes_members,
      docstring?_members, hnone]

/-- Reading a statement is reading its surface. -/
theorem declare_surface (c : Context) (m : Module) (s : Stmt) :
    declare c m (surface s) = declare c m s := by
  cases s with
  | function isAsync name params result decorators body =>
    rw [surface, declare, declare, function_documentation]
  | «class» name bases decorators body => rw [surface, declare, declare, classOf_members]
  | _ => rfl

theorem foldlM_declare_surface (c : Context) (m : Module) (l : List Stmt) :
    (l.map surface).foldlM (declare c) m = l.foldlM (declare c) m := by
  rw [List.foldlM_map]
  congr 1
  funext m s
  exact declare_surface c m s

/-- **What is extracted.** Where extraction succeeds, the classes, functions, variables,
type aliases and imports of the module are the images of the flattened statements that
define them, in their order. The exports are those of the last statement that sets the
export list and what later ones add to it, or all that is added where none sets it. And
every suite with the same documentation and the same flattened surfaces gives the same
module. -/
theorem extracted_from_flattened_surfaces {c : Context} {suite : List Stmt} {m : Module}
    (h : ofStatements c suite = .ok m) :
    m.name = c.module ∧ m.docstring = docstring? suite ∧
    m.classes.map .ok = (flatten suite).filterMap (classIn? c) ∧
    m.functions.map .ok = (flatten suite).filterMap (functionIn? c) ∧
    m.vars = (flatten suite).flatMap (variablesIn c) ∧
    m.aliases = (flatten suite).filterMap (aliasIn? c) ∧
    m.imports = (flatten suite).flatMap importsIn ∧
    (∀ before s after value, flatten suite = before ++ s :: after → exportsSet? s = some value →
      (∀ a ∈ after, exportsSet? a = none) →
      m.exports = exportNames value ++ after.flatMap exportsAdded) ∧
    ((∀ a ∈ flatten suite, exportsSet? a = none) →
      m.exports = (flatten suite).flatMap exportsAdded) ∧
    ∀ suite', docstring? suite' = docstring? suite →
      (flatten suite').map surface = (flatten suite).map surface →
      ofStatements c suite' = .ok m := by
  have hf := ofStatements_eq_foldlM c suite
  rw [h] at hf
  have hd := declares_of_foldlM hf.symm
  refine ⟨hd.name, hd.docstring, hd.classes, hd.functions, hd.vars, hd.aliases, hd.imports,
    ?_, ?_, ?_⟩
  · intro before s after value hl hs ha
    rw [hd.exports, hl, exportsAfter_of_set _ hs ha]
  · intro hnone
    rw [hd.exports, exportsAfter_of_forall_none _ hnone, List.nil_append]
  · intro suite' hdoc hsurface
    rw [ofStatements_eq_foldlM, hdoc, ← foldlM_declare_surface, hsurface,
      foldlM_declare_surface, hf]

def branchingContext : Context := ⟨"pkg", "f=g=None".toList⟩

def quotedText (t : String) : Expr := .constant ⟨0, 0⟩ (.str t.toList)

def exportList : Expr := .name ⟨0, 0⟩ "__all__"

/-- An export list that is set, added to and set again in branches, with an assignment to
two targets and an import that is only tried. The function, the method, the class inside the
other one and the loops assign to it too. -/
def branchingSuite : List Stmt :=
  let hidden : Stmt := .assign [exportList] (.list ⟨0, 0⟩ [quotedText "hidden"])
  [.ifElse
    [.assign [exportList] (.list ⟨0, 0⟩ [quotedText "a"]),
     .augAssign exportList .add (.list ⟨0, 0⟩ [quotedText "b"])]
    [.ifElse [.assign [exportList] (.list ⟨0, 0⟩ [quotedText "c"])] [.other]],
   .tryExcept [.importFrom (some "fast") [⟨"f", none⟩] 0]
    [[.assign [.name ⟨0, 1⟩ "f", .name ⟨2, 3⟩ "g"] (.name ⟨4, 8⟩ "None")]] []
    [.augAssign exportList .add (.tuple ⟨0, 0⟩ [quotedText "d", exportList, quotedText "e"])],
   .ifElse [.function false "run" .none none [] [.expr (quotedText "Runs."), hidden]] [],
   .class "Box" [] []
    [.expr (quotedText "A box."), .annAssign (.name ⟨2, 3⟩ "g") (.name ⟨4, 8⟩ "None") none,
     .class "Lid" [] [] [.annAssign (.name ⟨0, 1⟩ "f") (.name ⟨4, 8⟩ "None") none, hidden],
     .loop [.annAssign (.name ⟨0, 1⟩ "f") (.name ⟨4, 8⟩ "None") none] [hidden],
     .function false "open" .none none [] [hidden]],
   .loop [hidden, .function false "step" .none none [] []] [hidden]]

theorem branchingSuite_extracted :
    ∃ m, ofStatements branchingContext branchingSuite = .ok m ∧
      m.exports = ["c", "d", "e"] ∧ m.imports = [.selected (some "fast") [⟨"f", none⟩] 0] ∧
      m.vars = [⟨"f", some "None", none⟩, ⟨"g", some "None", none⟩] ∧
      m.functions.map .ok = [function branchingContext false false "run" .none none []
        [.expr (quotedText "Runs.")]] ∧
      m.classes.map .ok = [classOf branchingContext "Box" [] []
        [.expr (quotedText "A box."), .annAssign (.name ⟨2, 3⟩ "g") (.name ⟨4, 8⟩ "None") none,
         .function false "open" .none none [] []]] ∧
      ofStatements branchingContext ((flatten branchingSuite).map surface) = .ok m := by
  obtain ⟨m, h⟩ : ∃ m, ofStatements branchingContext branchingSuite = .ok m := ⟨_, rfl⟩
  obtain ⟨_, _, hc, hf, hv, _, hi, he, _, hs⟩ := extracted_from_flattened_surfaces h
  refine ⟨m, h, ?_, hi, ?_, hf, hc, hs _ rfl rfl⟩
  · exact he ((flatten branchingSuite).take 2) _ ((flatten branchingSuite).drop 3) _ rfl rfl
      (by decide)
  · rw [hv]
    rfl

end RefBook.Extract
