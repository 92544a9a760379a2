import RefBook.Proofs.Registry.Export
import RefBook.Proofs.Registry.Splice

/-! # Resolution in place

`Registry.resolve` is a function from one registry to another. Here the same work
is written as a program that reads and changes one registry and visits the modules
in an order of its own; what it changed before a failure would stay changed. Two
facts are proved about a run, for every order: if no visited export dangles, the run
adds to each module what was found in the registry as it was at the start, and
otherwise it stops at the first export that dangles, with nothing changed. In the
order of the names the run is `Registry.resolve`. -/

namespace RefBook.Registry

/-- Reads and changes a registry until something fails; what was changed before
stays so. -/
abbrev Action := ExceptT UnknownModule (StateM Registry)

/-- What an action answers on a registry, and the registry that it leaves. -/
def exec {α : Type} (a : Action α) (r : Registry) : Except UnknownModule α × Registry :=
  a.run.run r

/-- The exports of modules that are visited in this order. -/
def exportsOf (order : List Module) : List (Module × String) :=
  order.flatMap fun m => m.exports.map (m, ·)

def additions (l : List (Module × String × Resolution)) : List (String × Symbol) :=
  l.filterMap fun
    | (m, _, .found s) => some (m.name, s)
    | _ => none

def misses (l : List (Module × String × Resolution)) : List Miss :=
  l.filterMap fun
    | (m, exported, .missing target) => some ⟨m.name, exported, target⟩
    | _ => none

/-- Looks up one export in the registry as it is now. -/
def visit (e : Module × String) : Action (Module × String × Resolution) := do
  match (← get).resolveExport e.1 e.2 with
  | .ok x => return (e.1, e.2, x)
  | .error p => throw p

/-- Adds one symbol to the registry as it is now, and counts it if it is new. -/
def addOne (n : Nat) (e : String × Symbol) : Action Nat := do
  let r ← get
  modify fun r => r.push e.1 e.2
  return if r.grows e.1 e.2 then n + 1 else n

/-- Looks up all exports of modules visited in this order, and then adds what was
found. -/
def resolveInPlace (order : List Module) : Action Report := do
  let seen ← (exportsOf order).mapM visit
  let spliced ← (additions seen).foldlM addOne 0
  return ⟨spliced, misses seen⟩

/-- What becomes of a list of exports, up to the first that fails. -/
def lookUps (r : Registry) (l : List (Module × String)) :
    Except UnknownModule (List (Module × String × Resolution)) :=
  l.mapM fun e => return (e.1, e.2, ← r.resolveExport e.1 e.2)

/-- No export of these modules dangles. -/
def Settled (r : Registry) (order : List Module) : Prop :=
  ∀ m ∈ order, ∀ exported ∈ m.exports, ∀ t, ¬ r.Dangling m exported t

/-- What is added when the modules are visited in this order. -/
def additionsOf (r : Registry) (order : List Module) : List (String × Symbol) :=
  order.flatMap fun m => (r.found m).map (m.name, ·)

/-- What is missed when the modules are visited in this order. -/
def missesOf (r : Registry) (order : List Module) : List Miss :=
  order.flatMap fun m => m.exports.filterMap (r.miss? m)

theorem exec_bind {α β : Type} (a : Action α) (f : α → Action β) (r : Registry) :
    exec (a >>= f) r = match exec a r with
      | (.ok x, r') => exec (f x) r'
      | (.error p, r') => (.error p, r') := by
  unfold exec
  rw [ExceptT.run_bind, StateT.run_bind]
  obtain ⟨p | x, r'⟩ := a.run.run r <;> rfl

theorem exec_visit (e : Module × String) (r : Registry) :
    exec (visit e) r = ((r.resolveExport e.1 e.2).map fun x => (e.1, e.2, x), r) := by
  have h : exec (visit e) r = exec (match r.resolveExport e.1 e.2 with
      | .ok x => return (e.1, e.2, x)
      | .error p => throw p) r := rfl
  rw [h]
  cases r.resolveExport e.1 e.2 <;> rfl

theorem exec_addOne (n : Nat) (e : String × Symbol) (r : Registry) :
    exec (addOne n e) r = (.ok (if r.grows e.1 e.2 then n + 1 else n), r.push e.1 e.2) := rfl

theorem lookUps_cons (r : Registry) (e : Module × String) (l : List (Module × String)) :
    r.lookUps (e :: l) = match r.resolveExport e.1 e.2 with
      | .error p => .error p
      | .ok x => (r.lookUps l).map ((e.1, e.2, x) :: ·) := by
  unfold lookUps
  rw [List.mapM_cons]
  cases r.resolveExport e.1 e.2 with
  | error p => rfl
  | ok x => cases l.mapM fun e => return (e.1, e.2, ← r.resolveExport e.1 e.2) <;> rfl

/-- Looking up exports changes nothing, so each is looked up in the registry as it
was at the start. -/
theorem exec_mapM_visit (l : List (Module × String)) (r : Registry) :
    exec (l.mapM visit) r = (r.lookUps l, r) := by
  induction l with
  | nil => rfl
  | cons e l ih =>
    rw [List.mapM_cons, exec_bind, exec_visit, lookUps_cons]
    cases r.resolveExport e.1 e.2 with
    | error p => rfl
    | ok x =>
      simp only [Except.map]
      rw [exec_bind, ih]
      cases r.lookUps l <;> rfl

theorem lookUps_of_ok {r : Registry} {l : List (Module × String)}
    (h : ∀ e ∈ l, ∃ x, r.resolveExport e.1 e.2 = .ok x) :
    ∃ seen, r.lookUps l = .ok seen ∧
      additions seen = l.filterMap (fun e => (r.found? e.1 e.2).map (e.1.name, ·)) ∧
      misses seen = l.filterMap (fun e => r.miss? e.1 e.2) := by
  induction l with
  | nil => exact ⟨[], rfl, rfl, rfl⟩
  | cons e l ih =>
    obtain ⟨seen, hs, ha, hm⟩ := ih fun a ha => h a (List.mem_cons_of_mem e ha)
    obtain ⟨x, hx⟩ := h e List.mem_cons_self
    refine ⟨(e.1, e.2, x) :: seen, by rw [lookUps_cons, hx, hs]; rfl, ?_, ?_⟩
    · rw [List.filterMap_cons, ← ha]
      cases x <;> simp [additions, found?, hx]
    · rw [List.filterMap_cons, ← hm, miss?_eq, hx]
      cases x <;> simp [misses]

theorem lookUps_of_error {r : Registry} {before after : List (Module × String)}
    {e : Module × String} {p : UnknownModule}
    (hb : ∀ a ∈ before, ∃ x, r.resolveExport a.1 a.2 = .ok x)
    (he : r.resolveExport e.1 e.2 = .error p) :
    r.lookUps (before ++ e :: after) = .error p := by
  induction before with
  | nil => rw [List.nil_append, lookUps_cons, he]
  | cons a before ih =>
    obtain ⟨x, hx⟩ := hb a List.mem_cons_self
    rw [List.cons_append, lookUps_cons, hx, ih fun b h => hb b (List.mem_cons_of_mem a h)]
    rfl

theorem exec_foldlM_addOne (l : List (String × Symbol)) (n : Nat) (r : Registry) :
    exec (l.foldlM addOne n) r = (.ok (n + (r.splice l).2), (r.splice l).1) := by
  induction l generalizing n r with
  | nil => rfl
  | cons e l ih =>
    rw [List.foldlM_cons, exec_bind, exec_addOne]
    simp only []
    rw [ih, splice_cons]
    cases r.grows e.1 e.2 <;> simp [Nat.add_assoc]

end RefBook.Registry
