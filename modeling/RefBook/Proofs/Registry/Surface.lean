import RefBook.Proofs.Registry.Order

/-! # What a module ends up with

A symbol that an export finds is added under the name that it has where it is
defined, not under the name that is exported. So of several exports that find
symbols of one kind and name, only the first adds its symbol. -/

namespace RefBook.Registry

/-- **The first of its like is kept.** After resolution a module has a symbol of the
kind and name of each symbol that its exports find. It has the symbol itself exactly if
it had it before, or if it had none like it and the first export that finds one of that
kind and name finds this one. So nothing is lost where no two exports find different
symbols of one kind and name. -/
theorem resolved_keeps_first_of_its_like {r r' : Registry} {report : Report} {name : String}
    {m : Module} (h : r.resolve = .ok (r', report)) (hm : r.get? name = some m) :
    ∃ m', r'.get? name = some m' ∧
      ∀ x ∈ m.exports, ∀ s, r.resolveExport m x = .ok (.found s) →
        m'.hasLike s = true ∧
        (m'.Holds s ↔
          m.Holds s ∨ m.hasLike s = false ∧ (r.found m).find? (·.alike s) = some s) ∧
        (m.hasLike s = false →
          (∀ y ∈ m.exports, ∀ u, r.resolveExport m y = .ok (.found u) →
            u.alike s = true → u = s) →
          m'.Holds s) := by
  refine ⟨(r.found m).foldl Module.push m, by rw [get?_resolve h, hm, Option.map_some], ?_⟩
  intro x hx s hs
  have hmem : s ∈ r.found m := (r.mem_found_iff m s).mpr ⟨x, hx, hs⟩
  refine ⟨Module.hasLike_foldl_push_of_mem hmem m, Module.holds_foldl_push_iff _ m s, ?_⟩
  intro hno hsame
  rw [Module.holds_foldl_push_iff]
  right
  refine ⟨hno, ?_⟩
  -- whatever comes first of this kind and name is `s` itself
  cases hf : (r.found m).find? (·.alike s) with
  | none => exact absurd s.alike_refl (List.find?_eq_none.mp hf s hmem)
  | some u =>
    obtain ⟨y, hy, hu⟩ := (r.mem_found_iff m u).mp (List.mem_of_find?_eq_some hf)
    have halike := List.find?_some hf
    rw [hsame y hy u hu halike]

/-- A package that exports two variables which are called alike where they are
defined, the second one under a name of its own, and a third variable. -/
def namesakes : Registry := .ofModules
  [⟨"pkg.__init__", none, [], [], [], [],
    [.selected (some "a") [⟨"v", none⟩] 1, .selected (some "b") [⟨"v", some "w"⟩, ⟨"u", none⟩] 1],
    ["v", "w", "u"]⟩,
   ⟨"pkg.a", none, [], [], [⟨"v", some "1", none⟩], [], [], []⟩,
   ⟨"pkg.b", none, [], [], [⟨"v", some "2", none⟩, ⟨"u", some "3", none⟩], [], [], []⟩]

theorem namesakes_keeps_first_and_third :
    ∃ r' m', namesakes.resolve = .ok (r', ⟨2, []⟩) ∧ r'.get? "pkg.__init__" = some m' ∧
      m'.Holds (.variable ⟨"v", some "1", none⟩) ∧ m'.Holds (.variable ⟨"u", some "3", none⟩) := by
  have hm : namesakes.get? "pkg.__init__" = some _ := rfl
  obtain ⟨m', hm', hkeep⟩ := resolved_keeps_first_of_its_like rfl hm
  refine ⟨_, m', rfl, hm', ?_, ?_⟩
  · exact (hkeep "v" (by decide) _ rfl).2.1.mpr (.inr ⟨rfl, rfl⟩)
  · exact (hkeep "u" (by decide) _ rfl).2.1.mpr (.inr ⟨rfl, rfl⟩)

/-- An export that finds a symbol which the module has none like of can still lose
it, to another export that finds a symbol of the same kind and name. -/
theorem second_namesake_lost :
    ¬ ∀ (r r' : Registry) (report : Report) (name x : String) (m m' : Module) (s : Symbol),
      r.resolve = .ok (r', report) → r.get? name = some m → r'.get? name = some m' →
      x ∈ m.exports → r.resolveExport m x = .ok (.found s) → s.isImport = false →
      m.hasLike s = false → m'.Holds s := by
  intro h
  have hlost := h namesakes _ _ "pkg.__init__" "w" _ _ (.variable ⟨"v", some "2", none⟩)
    rfl rfl rfl (by decide) rfl rfl rfl
  revert hlost
  unfold Module.Holds
  decide

end RefBook.Registry
