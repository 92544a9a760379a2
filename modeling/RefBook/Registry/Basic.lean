import RefBook.Contents
import RefBook.Dict
import RefBook.Extract.Module
import RefBook.Module.Target
import RefBook.Path

/-! The modules of a run, each under its name. -/

namespace RefBook

structure Registry where
  modules : Dict Module
  /-- Each module is kept under its own name. -/
  named : ∀ e ∈ modules.entries, e.1 = e.2.name := by simp [Dict.empty]

namespace Registry

def empty : Registry := ⟨.empty, by simp [Dict.empty]⟩

instance : Inhabited Registry := ⟨empty⟩

def get? (r : Registry) (name : String) : Option Module := r.modules.get? name

def contains (r : Registry) (name : String) : Bool := r.modules.contains name

/-- The names of the modules, in ascending order. -/
def names (r : Registry) : List String := r.modules.keys

/-- The modules in the order of their names. -/
def toList (r : Registry) : List Module := r.modules.values

def size (r : Registry) : Nat := r.modules.size

def isEmpty (r : Registry) : Bool := r.modules.isEmpty

/-- The table of contents over all modules. -/
def contents (r : Registry) : String := Contents.render r.names

/-- Keeps `m` under its name, in place of what is there. -/
def set (r : Registry) (m : Module) : Registry :=
  ⟨r.modules.insert m.name m, fun e he => by
    rcases Dict.mem_insertEntry he with rfl | h
    · rfl
    · exact r.named e h⟩

theorem get?_set (r : Registry) (m : Module) (name : String) :
    (r.set m).get? name = if name = m.name then some m else r.get? name :=
  Dict.get?_insert r.modules m.name name m

/-- Adds a module, unless its name is taken. -/
def insert (r : Registry) (m : Module) : Except Extract.Problem Registry :=
  if r.contains m.name then .error (.duplicateModule m.name) else .ok (r.set m)

/-- The registry of a list of modules; of two with one name the earlier counts. -/
def ofModules (ms : List Module) : Registry :=
  ms.foldl (fun r m => if r.contains m.name then r else r.set m) empty

/-- The registry of the files of a package, given as paths below its root and their
texts. The first file that cannot be added decides the error. -/
def ofSources (root : String) (files : List (String × List Char)) :
    Except Extract.Problem Registry :=
  files.foldlM (fun r file => do
    r.insert (← Extract.extract (Path.moduleName root file.1) file.1 file.2)) empty

theorem name_append (m : Module) (s : Symbol) : (m.append s).name = m.name := by
  cases s <;> rfl

theorem name_push (m : Module) (s : Symbol) : (m.push s).name = m.name := by
  unfold Module.push
  split
  · rfl
  · exact name_append m s

/-- Adds a symbol to the module of that name. -/
def push (r : Registry) (name : String) (s : Symbol) : Registry :=
  ⟨r.modules.mapValues fun key m => if key = name then m.push s else m, fun e he => by
    simp only [Dict.mapValues, List.mem_map] at he
    obtain ⟨a, ha, rfl⟩ := he
    have h := r.named a ha
    dsimp only
    split
    · rw [name_push, h]
    · exact h⟩

/-- Whether adding the symbol to the module of that name makes it longer. -/
def grows (r : Registry) (name : String) (s : Symbol) : Bool :=
  match r.get? name with
  | some m => !m.hasLike s
  | none => false

end Registry

end RefBook
