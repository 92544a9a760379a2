import RefBook.Proofs.Dict
import RefBook.Registry.Basic

/-! # Looking up modules

A registry lists each module under its own name. Hence a module is found under its
name exactly when it is one of the listed modules, and the names are listed in ascending
order. -/

namespace RefBook

namespace Registry

theorem ext {r r' : Registry} (h : r.modules = r'.modules) : r = r' := by
  cases r; cases r'; cases h; rfl

/-- A module is listed exactly when it is found under its own name. -/
theorem mem_toList_iff (r : Registry) (m : Module) :
    m ∈ r.toList ↔ r.get? m.name = some m := by
  unfold toList get? Dict.values
  rw [Dict.get?_eq_some_iff, List.mem_map]
  constructor
  · rintro ⟨e, he, rfl⟩
    rw [← r.named e he]
    exact he
  · intro h
    exact ⟨_, h, rfl⟩

/-- A module is found under its own name only. -/
theorem name_of_get? {r : Registry} {name : String} {m : Module}
    (h : r.get? name = some m) : m.name = name :=
  (r.named _ ((r.modules.get?_eq_some_iff name m).mp h)).symm

theorem mem_toList_of_get? {r : Registry} {name : String} {m : Module}
    (h : r.get? name = some m) : m ∈ r.toList := by
  rw [mem_toList_iff, name_of_get? h]
  exact h

theorem contains_iff_mem_names (r : Registry) (name : String) :
    r.contains name = true ↔ name ∈ r.names :=
  r.modules.contains_iff name

/-- The names are those of the listed modules, in the same order. -/
theorem names_eq_map (r : Registry) : r.names = r.toList.map (·.name) := by
  unfold names toList Dict.keys Dict.values
  rw [List.map_map]
  exact List.map_congr_left r.named

theorem names_ascending (r : Registry) : r.names.Pairwise (· < ·) :=
  List.pairwise_map.mpr r.modules.sorted

theorem names_nodup (r : Registry) : r.names.Nodup := by
  refine r.names_ascending.imp ?_
  intro a b hlt he
  rw [he] at hlt
  exact String.lt_irrefl b hlt

end Registry

end RefBook
