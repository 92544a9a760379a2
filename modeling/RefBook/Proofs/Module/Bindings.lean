import Mathlib.Algebra.GroupWithZero.Nat
import Mathlib.Algebra.Order.BigOperators.Group.List
import Mathlib.Algebra.Order.Group.Nat
import RefBook.Proofs.Path.Names
import RefBook.Proofs.Registry.Export

/-! # What the names that imports bind stand for

An import binds finitely many names, and each of them stands for one target. An item is
the last component of what is imported, so a target is known by its qualified name where
no imported name has a point in it. -/

namespace RefBook

/-- Names are told apart from the modules that they are in by the last point. -/
theorem Target.eq_of_qualified_eq {t u : Target} (ht : '.' ∉ t.item.toList)
    (hu : '.' ∉ u.item.toList) (h : t.qualified = u.qualified) : t = u := by
  have hparts : components t.module ++ [t.item] = components u.module ++ [u.item] := by
    have hc := congrArg components h
    rwa [qualified, qualified, components_append, components_append, components_of_not_mem ht,
      components_of_not_mem hu] at hc
  obtain ⟨hmodule, hitem⟩ := List.append_inj' hparts rfl
  have hname : t.module = u.module := by
    rw [← dotted_components t.module, hmodule, dotted_components]
  cases t
  cases u
  cases hname
  cases hitem
  rfl

/-- No name that the import takes over or gives has a point in it. A module that is
imported as a whole may have points in its name. -/
def Import.Undotted : Import → Prop
  | .whole _ asName => ∀ a ∈ asName, '.' ∉ a.toList
  | .selected _ names _ =>
    ∀ n ∈ names, '.' ∉ n.name.toList ∧ ∀ a ∈ n.asName, '.' ∉ a.toList

instance (i : Import) : Decidable i.Undotted := by
  cases i <;> unfold Import.Undotted <;> infer_instance

namespace Module

theorem splitLast?_eq_none {name : String} (h : splitLast? name = none) : '.' ∉ name.toList := by
  unfold splitLast? at h
  split at h
  · cases h
  · rename_i hno
    intro hdot
    obtain ⟨a, b, hab⟩ := List.append_of_mem hdot
    have hsplit : Text.splitOn '.' name.toList = Text.splitOn '.' a ++ Text.splitOn '.' b := by
      rw [hab, Text.splitOn_append]
    have hlen : 2 ≤ (Text.splitOn '.' name.toList).reverse.length := by
      have ha := List.length_pos_iff.mpr (Text.splitOn_ne_nil '.' a)
      have hb := List.length_pos_iff.mpr (Text.splitOn_ne_nil '.' b)
      rw [List.length_reverse, hsplit, List.length_append]
      omega
    match hr : (Text.splitOn '.' name.toList).reverse with
    | [] => rw [hr] at hlen; cases hlen
    | [_] => rw [hr] at hlen; simp at hlen
    | last :: piece :: rest => exact hno last piece rest hr

theorem splitLast?_eq_some {name parent item : String} (h : splitLast? name = some (parent, item)) :
    '.' ∉ item.toList := by
  unfold splitLast? at h
  split at h
  · rename_i last rest _ hr
    cases h
    rw [String.toList_ofList]
    apply Text.not_mem_of_mem_splitOn (t := name.toList)
    rw [← List.mem_reverse, hr]
    exact List.mem_cons_self
  · cases h

/-- What a module that is imported as a whole stands for under the name it is bound to. -/
theorem targetIn?_whole {m : Module} {name module : String} {asName : Option String} {t : Target}
    (h : m.targetIn? name (.whole module asName) = some t) :
    asName.getD module = name ∧
      ((∃ parent item, splitLast? module = some (parent, item) ∧ t = ⟨parent, item⟩) ∨
        splitLast? module = none ∧ t = ⟨module, name⟩) := by
  rw [targetIn?] at h
  split at h
  · rename_i hname
    refine ⟨beq_iff_eq.mp hname, ?_⟩
    cases hs : splitLast? module with
    | some e =>
      rw [hs] at h
      exact .inl ⟨e.1, e.2, rfl, (Option.some.inj h).symm⟩
    | none =>
      rw [hs] at h
      exact .inr ⟨rfl, (Option.some.inj h).symm⟩
  · cases h

/-- The items of targets are single names. -/
theorem undotted_of_targetIn? {m : Module} {name : String} {i : Import} {t : Target}
    (hi : i.Undotted) (h : m.targetIn? name i = some t) : '.' ∉ t.item.toList := by
  cases i with
  | selected module names level =>
    obtain ⟨n, hn, rfl⟩ := Option.map_eq_some_iff.mp h
    exact (hi n (List.mem_of_find?_eq_some hn)).1
  | whole module asName =>
    obtain ⟨rfl, ⟨parent, item, hs, rfl⟩ | ⟨hs, rfl⟩⟩ := targetIn?_whole h
    · exact splitLast?_eq_some hs
    · -- the module is one name, and the item is that name or the one it is given
      cases asName with
      | none => exact splitLast?_eq_none hs
      | some a => exact hi a rfl

theorem undotted_of_resolveImport {m : Module} {name : String} {t : Target}
    (hm : ∀ i ∈ m.imports, i.Undotted) (h : m.resolveImport name = some t) :
    '.' ∉ t.item.toList := by
  obtain ⟨i, hi, ht⟩ := List.exists_of_findSome?_eq_some h
  exact undotted_of_targetIn? (hm i hi) ht

/-- What the names that an import binds stand for. -/
def targetsIn (m : Module) : Import → List Target
  | .whole module asName => (m.targetIn? (asName.getD module) (.whole module asName)).toList
  | .selected module names level => names.map fun n => ⟨m.fromModule module level, n.name⟩

theorem mem_targetsIn {m : Module} {name : String} {i : Import} {t : Target}
    (h : m.targetIn? name i = some t) : t ∈ m.targetsIn i := by
  cases i with
  | selected module names level =>
    obtain ⟨n, hn, rfl⟩ := Option.map_eq_some_iff.mp h
    exact List.mem_map_of_mem (List.mem_of_find?_eq_some hn)
  | whole module asName =>
    rw [targetsIn, (targetIn?_whole h).1, h]
    exact List.mem_singleton_self t

theorem length_targetsIn (m : Module) (i : Import) :
    (m.targetsIn i).length ≤ Registry.bindingCount i := by
  cases i with
  | selected module names level => simp [targetsIn, Registry.bindingCount]
  | whole module asName =>
    rw [targetsIn, Registry.bindingCount]
    cases m.targetIn? (asName.getD module) (.whole module asName) <;> simp

end Module

namespace Registry

/-- What all names that imports bind stand for. -/
def targets (r : Registry) : List Target := r.toList.flatMap fun m => m.imports.flatMap m.targetsIn

theorem mem_targets {r : Registry} {m : Module} {name : String} {t : Target} (hm : m ∈ r.toList)
    (h : m.resolveImport name = some t) : t ∈ r.targets := by
  obtain ⟨i, hi, ht⟩ := List.exists_of_findSome?_eq_some h
  exact List.mem_flatMap.mpr ⟨m, hm, List.mem_flatMap.mpr ⟨i, hi, Module.mem_targetsIn ht⟩⟩

theorem bindings_eq_sum (r : Registry) :
    r.bindings = (r.toList.map fun m => (m.imports.map bindingCount).sum).sum := by
  rw [bindings, ← List.foldl_map (f := bindingCount) (g := (· + ·)), ← List.sum_eq_foldl,
    List.map_flatMap, List.flatMap_def, List.sum_flatten, List.map_map]
  rfl

/-- There are no more targets than bound names. -/
theorem length_targets_le (r : Registry) : r.targets.length ≤ r.bindings := by
  rw [targets, List.length_flatMap, bindings_eq_sum]
  refine List.sum_le_sum fun m _ => ?_
  rw [List.length_flatMap]
  exact List.sum_le_sum fun i _ => m.length_targetsIn i

end Registry

end RefBook
