import RefBook.Proofs.Extract.Flatten

/-! # Headings that cannot be read

Of all that a module declares only the headings of functions and methods are read
strictly, and there only two places: the defaults of parameters passed by name only, and
the type of the result. `Heading` keeps these two places and nothing else, and `offences`
lists what is wrong with them in the order of the text. Reading a module fails exactly if
there is an offence, and then with the first one. -/

namespace RefBook.Extract

open Source (Stmt Expr Params)

section

variable {ε α β : Type}

/-- What a computation fails with. -/
def problem? : Except ε α → Option ε
  | .ok _ => none
  | .error e => some e

theorem problem?_eq_some_iff {x : Except ε α} {e : ε} : problem? x = some e ↔ x = .error e := by
  cases x <;> simp [problem?]

theorem problem?_bind {x : Except ε α} {f : α → Except ε β} {q : Option ε}
    (h : ∀ a, problem? (f a) = q) : problem? (x >>= f) = (problem? x).or q := by
  cases x with
  | error e => rfl
  | ok a => exact h a

theorem problem?_bind_pure (x : Except ε α) (f : α → β) :
    problem? (x >>= fun a => pure (f a)) = problem? x := by
  cases x <;> rfl

/-- The first step that fails decides. -/
theorem problem?_mapM (f : α → Except ε β) (l : List α) :
    problem? (l.mapM f) = l.findSome? fun a => problem? (f a) := by
  induction l with
  | nil => rfl
  | cons a l ih =>
    rw [List.mapM_cons, List.findSome?_cons, ← ih]
    cases f a with
    | error e => rfl
    | ok b => cases l.mapM f <;> rfl

/-- The first step that fails decides, where failing does not depend on the steps
before. -/
theorem problem?_foldlM {f : β → α → Except ε β} {q : α → Option ε}
    (h : ∀ b a, problem? (f b a) = q a) (l : List α) (b : β) :
    problem? (l.foldlM f b) = l.findSome? q := by
  induction l generalizing b with
  | nil => rfl
  | cons a l ih =>
    rw [List.foldlM_cons, problem?_bind fun b' => ih b', h, List.findSome?_cons]
    cases q a <;> rfl

end

/-- The kinds of expressions that are read as a default of a parameter passed by name
only. -/
def defaultKinds : List String :=
  ["Constant", "Name", "Attribute", "Lambda", "UnaryOp", "Tuple", "List", "Set", "Dict", "Call",
    "Subscript", "BinOp"]

/-- The kinds of expressions that are read as the type of a result. -/
def resultKinds : List String := ["Name", "Constant", "Subscript", "Attribute", "Tuple", "BinOp"]

theorem showsDefault_iff (e : Expr) : showsDefault e = true ↔ e.kindName ∈ defaultKinds := by
  cases e with
  | shaped span shape =>
    cases shape <;> simp [showsDefault, Expr.kindName, Source.Shape.name, defaultKinds]
  | _ => simp [showsDefault, Expr.kindName, defaultKinds]

theorem showsReturn_iff (e : Expr) : showsReturn e = true ↔ e.kindName ∈ resultKinds := by
  cases e with
  | shaped span shape =>
    cases shape <;> simp [showsReturn, Expr.kindName, Source.Shape.name, resultKinds]
  | _ => simp [showsReturn, Expr.kindName, resultKinds]

/-- What is read strictly in the heading of a function. -/
structure Heading where
  function : String
  /-- The parameters passed by name only, in order, with their defaults. -/
  kwonly : List (String × Option Expr)
  result : Option Expr

def Heading.of (name : String) (params : Params) (result : Option Expr) : Heading :=
  ⟨name, params.kwonly.map fun p => (p.name, p.default), result⟩

def heading? : Stmt → Option Heading
  | .function _ name params result _ _ => some (.of name params result)
  | _ => none

/-- The headings in a statement: of the function that it defines, or of the methods that a
class has directly in its body. -/
def headingsIn : Stmt → List Heading
  | .class _ _ _ body => body.filterMap heading?
  | s => (heading? s).toList

/-- The headings that a module is read from, in the order of the text. -/
def headings (suite : List Stmt) : List Heading := (flatten suite).flatMap headingsIn

namespace Heading

def defaultOffence? (module : String) (h : Heading) (param : String × Option Expr) :
    Option Problem :=
  param.2.bind fun e =>
    if e.kindName ∈ defaultKinds then none
    else some (.unsupportedDefault module h.function param.1 e.kindName)

def resultOffence? (module : String) (h : Heading) : Option Problem :=
  h.result.bind fun e =>
    if e.kindName ∈ resultKinds then none
    else some (.unsupportedReturn module h.function e.kindName)

/-- All that is wrong with a heading: first with the defaults, then with the result. -/
def offences (module : String) (h : Heading) : List Problem :=
  h.kwonly.filterMap (h.defaultOffence? module) ++ (h.resultOffence? module).toList

end Heading

/-- All that is wrong in a module, in the order of the text. -/
def offences (module : String) (suite : List Stmt) : List Problem :=
  (headings suite).flatMap (Heading.offences module)

theorem problem?_kwonlyParam (c : Context) (h : Heading) (p : Source.Param) :
    problem? (kwonlyParam c h.function p) = h.defaultOffence? c.module (p.name, p.default) := by
  unfold kwonlyParam Heading.defaultOffence?
  cases p.default with
  | none => rfl
  | some e =>
    simp only [showsDefault_iff, Option.bind_some]
    split <;> rfl

theorem problem?_returns (c : Context) (h : Heading) :
    problem? (returns c h.function h.result) = h.resultOffence? c.module := by
  unfold returns Heading.resultOffence?
  cases h.result with
  | none => rfl
  | some e =>
    simp only [showsReturn_iff, Option.bind_some]
    split <;> rfl

/-- A function fails with the first offence of its heading. -/
theorem problem?_function (c : Context) (isMethod isAsync : Bool) (name : String)
    (params : Params) (result : Option Expr) (decorators : List Expr) (body : List Stmt) :
    problem? (function c isMethod isAsync name params result decorators body) =
      ((Heading.of name params result).offences c.module).head? := by
  have hkwonly : problem? (params.kwonly.mapM (kwonlyParam c name)) =
      (Heading.of name params result).kwonly.findSome?
        ((Heading.of name params result).defaultOffence? c.module) := by
    rw [problem?_mapM, Heading.of, List.findSome?_map]
    exact congrArg (List.findSome? · _)
      (funext fun p => problem?_kwonlyParam c (.of name params result) p)
  have hresult : problem? (returns c name result) =
      (Heading.of name params result).resultOffence? c.module :=
    problem?_returns c (.of name params result)
  rw [function, problem?_bind fun kwonly => (problem?_bind_pure _ _).trans hresult, hkwonly,
    Heading.offences, List.head?_append, List.head?_filterMap, Option.head?_toList]

/-- Methods fail with the first offence of their headings. -/
theorem problem?_methods (c : Context) (body : List Stmt) :
    problem? (methods c body) =
      ((body.filterMap heading?).flatMap (Heading.offences c.module)).head? := by
  induction body with
  | nil => rfl
  | cons s rest ih =>
    cases s with
    | function isAsync name params result decorators body =>
      rw [methods, problem?_bind fun f => (problem?_bind_pure _ _).trans ih, problem?_function,
        List.filterMap_cons, heading?, List.flatMap_cons, List.head?_append]
    | _ => exact ih

/-- A statement fails with the first offence of the headings in it. -/
theorem problem?_declare (c : Context) (m : Module) (s : Stmt) :
    problem? (declare c m s) = ((headingsIn s).flatMap (Heading.offences c.module)).head? := by
  cases s with
  | function isAsync name params result decorators body =>
    rw [declare, problem?_bind_pure, problem?_function, headingsIn, heading?, Option.toList_some,
      List.flatMap_singleton]
    intro _ _ _ _ h
    cases h
  | «class» name bases decorators body =>
    rw [declare, problem?_bind_pure, classOf, problem?_bind_pure, problem?_methods, headingsIn]
  | _ => rfl

theorem problem?_ofStatements (c : Context) (suite : List Stmt) :
    problem? (ofStatements c suite) = (offences c.module suite).head? := by
  rw [ofStatements_eq_foldlM, problem?_foldlM fun m s => problem?_declare c m s, offences, headings,
    List.flatMap_assoc, List.head?_flatMap]

theorem Heading.defaultOffence?_eq_some_iff (module : String) (h : Heading)
    (param : String × Option Expr) (p : Problem) :
    h.defaultOffence? module param = some p ↔ ∃ e, param.2 = some e ∧ e.kindName ∉ defaultKinds ∧
      p = .unsupportedDefault module h.function param.1 e.kindName := by
  unfold Heading.defaultOffence?
  rw [Option.bind_eq_some_iff]
  simp only [Option.ite_none_left_eq_some, Option.some.injEq, eq_comm (a := p)]

theorem Heading.resultOffence?_eq_some_iff (module : String) (h : Heading) (p : Problem) :
    h.resultOffence? module = some p ↔ ∃ e, h.result = some e ∧ e.kindName ∉ resultKinds ∧
      p = .unsupportedReturn module h.function e.kindName := by
  unfold Heading.resultOffence?
  rw [Option.bind_eq_some_iff]
  simp only [Option.ite_none_left_eq_some, Option.some.injEq, eq_comm (a := p)]

/-- An offence is a default or a result of a kind that is not read there. -/
theorem Heading.mem_offences_iff (module : String) (h : Heading) (p : Problem) :
    p ∈ h.offences module ↔
      (∃ param e, (param, some e) ∈ h.kwonly ∧ e.kindName ∉ defaultKinds ∧
        p = .unsupportedDefault module h.function param e.kindName) ∨
      ∃ e, h.result = some e ∧ e.kindName ∉ resultKinds ∧
        p = .unsupportedReturn module h.function e.kindName := by
  unfold Heading.offences
  simp only [List.mem_append, List.mem_filterMap, Option.mem_toList,
    defaultOffence?_eq_some_iff, resultOffence?_eq_some_iff]
  constructor
  · rintro (⟨⟨param, default⟩, hparam, e, he, hkind, rfl⟩ | hresult)
    · cases he
      exact .inl ⟨param, e, hparam, hkind, rfl⟩
    · exact .inr hresult
  · rintro (⟨param, e, hparam, hkind, rfl⟩ | hresult)
    · exact .inl ⟨(param, some e), hparam, e, rfl, hkind, rfl⟩
    · exact .inr hresult

theorem exists_mem_offences_iff (module : String) (suite : List Stmt) :
    (∃ p, p ∈ offences module suite) ↔ ∃ h ∈ headings suite,
      (∃ param e, (param, some e) ∈ h.kwonly ∧ e.kindName ∉ defaultKinds) ∨
        ∃ e, h.result = some e ∧ e.kindName ∉ resultKinds := by
  unfold offences
  simp only [List.mem_flatMap, Heading.mem_offences_iff]
  constructor
  · rintro ⟨p, h, hmem, ⟨param, e, hparam, hkind, _⟩ | ⟨e, hresult, hkind, _⟩⟩
    · exact ⟨h, hmem, .inl ⟨param, e, hparam, hkind⟩⟩
    · exact ⟨h, hmem, .inr ⟨e, hresult, hkind⟩⟩
  · rintro ⟨h, hmem, ⟨param, e, hparam, hkind⟩ | ⟨e, hresult, hkind⟩⟩
    · exact ⟨_, h, hmem, .inl ⟨param, e, hparam, hkind, rfl⟩⟩
    · exact ⟨_, h, hmem, .inr ⟨e, hresult, hkind, rfl⟩⟩

/-- **Extraction fails at the first offence.** Reading a module fails exactly if some
function or method that it is read from has a default of a parameter passed by name only,
or a type of its result, that is of none of the kinds which are read there. The error is
that of the first such place in the order of the text and names the module, the function
and the parameter. Nothing else in the module has a part in it: whatever has the same
headings fails alike. -/
theorem fails_at_first_offence (c : Context) (suite : List Stmt) :
    ((∃ p, ofStatements c suite = .error p) ↔ ∃ h ∈ headings suite,
      (∃ param e, (param, some e) ∈ h.kwonly ∧ e.kindName ∉ defaultKinds) ∨
        ∃ e, h.result = some e ∧ e.kindName ∉ resultKinds) ∧
    (∀ p, ofStatements c suite = .error p ↔ (offences c.module suite).head? = some p) ∧
    ∀ suite', headings suite' = headings suite →
      ∀ p, ofStatements c suite' = .error p ↔ ofStatements c suite = .error p := by
  have hfirst : ∀ suite p, ofStatements c suite = .error p ↔
      (offences c.module suite).head? = some p := by
    intro suite p
    rw [← problem?_eq_some_iff, problem?_ofStatements]
  refine ⟨?_, hfirst suite, ?_⟩
  · simp only [hfirst, ← exists_mem_offences_iff c.module suite]
    constructor
    · rintro ⟨p, hp⟩
      exact ⟨p, List.mem_of_head? hp⟩
    · rintro ⟨p, hp⟩
      exact ⟨_, List.head?_eq_some_head (List.ne_nil_of_mem hp)⟩
  · intro suite' hsame p
    rw [hfirst, hfirst, offences, hsame, offences]

/-- A function that can be read whatever its positional parameters and decorators are;
then, in a branch, a class with a method whose heading has two offences, and a function
with another one. -/
def strictSuite (positional : List Source.Param) (decorators : List Expr) : List Stmt :=
  let number : Expr := .constant ⟨0, 1⟩ (.int 1)
  let choice : Expr := .shaped ⟨0, 9⟩ .ifExp
  let params (kwonly : List Source.Param) : Params := ⟨positional, [], none, kwonly, none⟩
  [.function false "open" (params [⟨"mode", choice, number⟩]) number decorators
     [.function false "inner" (params []) choice [] []],
   .tryExcept [.ifElse [] [.class "Pen" [] decorators [.other,
      .function true "draw" (params [⟨"width", none, none⟩, ⟨"size", none, choice⟩]) choice
        decorators []]]] [] [] [],
   .function false "save" (params []) choice decorators []]

theorem strictSuite_fails :
    ofStatements ⟨"pkg", []⟩ (strictSuite [] []) =
      .error (.unsupportedDefault "pkg" "draw" "size" "IfExp") ∧
    ofStatements ⟨"pkg", []⟩ (strictSuite [⟨"self", none, Expr.list ⟨0, 2⟩ []⟩]
      [.shaped ⟨0, 9⟩ .ifExp]) = .error (.unsupportedDefault "pkg" "draw" "size" "IfExp") := by
  obtain ⟨_, hfirst, hsame⟩ := fails_at_first_offence ⟨"pkg", []⟩ (strictSuite [] [])
  have hfails := (hfirst (.unsupportedDefault "pkg" "draw" "size" "IfExp")).mpr rfl
  exact ⟨hfails, (hsame _ rfl _).mpr hfails⟩

end RefBook.Extract
