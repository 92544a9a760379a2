import RefBook.Proofs.Module.Push

/-! # How a module grows

Adding symbols never touches what a module had: its name, its documentation and its
exports stay, and each of its five lists keeps what it holds, in the same order, in
front of what is new. And a module without two symbols of one kind and name gets none
by additions. -/

namespace RefBook.Module

/-- The second module is the first one with symbols added at the ends of its lists. -/
structure Grown (m m' : Module) : Prop where
  name : m'.name = m.name
  docstring : m'.docstring = m.docstring
  exports : m'.exports = m.exports
  classes : m.classes <+: m'.classes
  functions : m.functions <+: m'.functions
  vars : m.vars <+: m'.vars
  aliases : m.aliases <+: m'.aliases
  imports : m.imports <+: m'.imports

/-- No two symbols of the module have one kind and name, and no import is there
twice. -/
structure Distinct (m : Module) : Prop where
  classes : (m.classes.map (·.name)).Nodup
  functions : (m.functions.map (·.name)).Nodup
  vars : (m.vars.map (·.name)).Nodup
  aliases : (m.aliases.map (·.name)).Nodup
  imports : m.imports.Nodup

theorem Grown.refl (m : Module) : Grown m m :=
  ⟨rfl, rfl, rfl, List.prefix_rfl, List.prefix_rfl, List.prefix_rfl, List.prefix_rfl,
    List.prefix_rfl⟩

theorem Grown.trans {m m' m'' : Module} (h : Grown m m') (h' : Grown m' m'') : Grown m m'' where
  name := h'.name.trans h.name
  docstring := h'.docstring.trans h.docstring
  exports := h'.exports.trans h.exports
  classes := h.classes.trans h'.classes
  functions := h.functions.trans h'.functions
  vars := h.vars.trans h'.vars
  aliases := h.aliases.trans h'.aliases
  imports := h.imports.trans h'.imports

theorem grown_append (m : Module) (s : Symbol) : Grown m (m.append s) := by
  cases s with
  | «class» c => exact { Grown.refl m with classes := List.prefix_append _ _ }
  | function f => exact { Grown.refl m with functions := List.prefix_append _ _ }
  | «variable» v => exact { Grown.refl m with vars := List.prefix_append _ _ }
  | typeAlias a => exact { Grown.refl m with aliases := List.prefix_append _ _ }
  | imported i => exact { Grown.refl m with imports := List.prefix_append _ _ }

theorem grown_push (m : Module) (s : Symbol) : Grown m (m.push s) := by
  cases h : m.hasLike s with
  | true => rw [push_of_hasLike h]; exact Grown.refl m
  | false => rw [push_of_not_hasLike h]; exact grown_append m s

/-- A name that none of the elements has can be added to those they have. -/
theorem nodup_map_concat {α : Type} {f : α → String} {l : List α} {a : α}
    (hl : (l.map f).Nodup) (h : l.any (f · == f a) = false) : ((l ++ [a]).map f).Nodup := by
  rw [List.map_append, List.nodup_append]
  refine ⟨hl, by simp, ?_⟩
  intro x hx y hy hxy
  obtain ⟨b, hb, rfl⟩ := List.mem_map.mp hx
  have hya : y = f a := by simpa using hy
  have hne := List.any_eq_false.mp h b hb
  exact hne (beq_iff_eq.mpr (hxy.trans hya))

theorem Distinct.append {m : Module} (hd : m.Distinct) {s : Symbol} (h : m.hasLike s = false) :
    (m.append s).Distinct := by
  cases s with
  | «class» c => exact { hd with classes := nodup_map_concat hd.classes h }
  | function f => exact { hd with functions := nodup_map_concat hd.functions h }
  | «variable» v => exact { hd with vars := nodup_map_concat hd.vars h }
  | typeAlias a => exact { hd with aliases := nodup_map_concat hd.aliases h }
  | imported i =>
    have hi : i ∉ m.imports := by
      intro hm
      rw [hasLike, List.contains_iff_mem.mpr hm] at h
      cases h
    refine { hd with imports := ?_ }
    exact List.nodup_append.mpr ⟨hd.imports, by simp, fun x hx y hy hxy => by
      rw [List.mem_singleton.mp hy] at hxy
      exact hi (hxy ▸ hx)⟩

theorem Distinct.push {m : Module} (hd : m.Distinct) (s : Symbol) : (m.push s).Distinct := by
  cases h : m.hasLike s with
  | true => rw [push_of_hasLike h]; exact hd
  | false => rw [push_of_not_hasLike h]; exact hd.append h

theorem grown_foldl_push (l : List Symbol) (m : Module) : Grown m (l.foldl push m) := by
  induction l generalizing m with
  | nil => exact Grown.refl m
  | cons s l ih => exact (grown_push m s).trans (ih (m.push s))

theorem Distinct.foldl_push {m : Module} (hd : m.Distinct) (l : List Symbol) :
    (l.foldl Module.push m).Distinct := by
  induction l generalizing m with
  | nil => exact hd
  | cons s l ih => exact ih (hd.push s)

end RefBook.Module
